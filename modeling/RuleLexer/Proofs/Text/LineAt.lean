import RuleLexer.Proofs.Text.Blank
import RuleLexer.Proofs.Text.Line

/-!
# The line that holds a byte

`lineAt?` finds a line by a byte offset.  `IsLineAt` says in terms of the bytes of the text which line
that is: the newlines before the offset give its number, it begins behind the last of them, and it goes
through the next one.

* `lineAt?_of_lines`: an offset inside a line is found in that line;
* `lineAt_iff_isLineAt`: **every offset is found in its line, and none past the end**, with one
  exception: the end of a text whose last line has no newline is found in an empty line that is
  counted as the next (`end_of_open_line`).

Offsets may lie inside a character.  Only the newline has a newline among its bytes
(`newline_mem_utf8EncodeChar`), so the bytes say the same about lines as the characters.
-/

namespace RuleLexer.Text

/-! ### The bytes of a text -/

/-- The UTF-8 form of a text. -/
def bytes (cs : List Char) : List UInt8 :=
  cs.flatMap String.utf8EncodeChar

/-- The byte of a newline. -/
def newline : UInt8 := 0x0A

variable {c : Char} {cs l u v : List Char} {before after ls : List (List Char)} {k position : Nat}

theorem bytes_append (cs ds : List Char) : bytes (cs ++ ds) = bytes cs ++ bytes ds :=
  List.flatMap_append

theorem length_bytes (cs : List Char) : (bytes cs).length = byteLength cs := by
  induction cs with
  | nil => rfl
  | cons c cs ih =>
    rw [bytes, List.flatMap_cons, List.length_append, String.length_utf8EncodeChar, ← bytes, ih,
      byteLength_cons]

theorem newline_ne_ofNat {n : Nat} (hlow : 128 ≤ n) (hhigh : n < 256) : newline ≠ UInt8.ofNat n := by
  intro h
  have htoNat := congrArg UInt8.toNat h
  rw [UInt8.toNat_ofNat_of_lt' hhigh] at htoNat
  have hnewline : newline.toNat = 10 := rfl
  omega

/-- Only the newline has a newline among its bytes. -/
theorem newline_mem_utf8EncodeChar : newline ∈ String.utf8EncodeChar c ↔ c = '\n' := by
  refine ⟨fun h => ?_, fun h => h ▸ by decide⟩
  have hlast : ∀ n : Nat, newline ≠ UInt8.ofNat (n % 64 + 128) := fun n =>
    newline_ne_ofNat (by omega) (by omega)
  have htwo : newline ≠ UInt8.ofNat (c.val.toNat / 64 % 32 + 192) :=
    newline_ne_ofNat (by omega) (by omega)
  have hthree : newline ≠ UInt8.ofNat (c.val.toNat / 4096 % 16 + 224) :=
    newline_ne_ofNat (by omega) (by omega)
  have hfour : newline ≠ UInt8.ofNat (c.val.toNat / 262144 % 8 + 240) :=
    newline_ne_ofNat (by omega) (by omega)
  rw [String.utf8EncodeChar] at h
  split at h
  next hascii =>
    have htoNat := congrArg UInt8.toNat (List.mem_singleton.1 h)
    have hsize : UInt8.size = 256 := rfl
    rw [UInt8.toNat_ofNat_of_lt' (by omega)] at htoNat
    exact Char.ext (UInt32.toNat_inj.1 htoNat.symm)
  next =>
    -- longer forms consist of bytes from 128 on
    split at h
    · simp only [List.mem_cons, List.not_mem_nil, htwo, hlast, or_self] at h
    · split at h
      · simp only [List.mem_cons, List.not_mem_nil, hthree, hlast, or_self] at h
      · simp only [List.mem_cons, List.not_mem_nil, hfour, hlast, or_self] at h

theorem newline_mem_bytes : newline ∈ bytes cs ↔ '\n' ∈ cs := by
  rw [bytes, List.mem_flatMap]
  constructor
  · rintro ⟨c, hc, hnewline⟩
    exact newline_mem_utf8EncodeChar.1 hnewline ▸ hc
  · exact fun h => ⟨'\n', h, newline_mem_utf8EncodeChar.2 rfl⟩

/-- The bytes have as many newlines as the characters. -/
theorem count_newline_bytes (cs : List Char) : (bytes cs).count newline = cs.count '\n' := by
  induction cs with
  | nil => rfl
  | cons c cs ih =>
    rw [bytes, List.flatMap_cons, List.count_append, ← bytes, ih]
    by_cases hc : c = '\n'
    · subst hc
      rw [List.count_cons_self, Nat.add_comm]
      rfl
    · rw [List.count_eq_zero.2 (fun h => hc (newline_mem_utf8EncodeChar.1 h)),
        List.count_cons_of_ne hc, Nat.zero_add]

/-- Texts that begin with as many bytes begin with the same characters. -/
theorem append_inj_of_byteLength {u' v' : List Char} (h : u ++ v = u' ++ v')
    (hlength : byteLength u = byteLength u') : u = u' ∧ v = v' := by
  induction u generalizing u' with
  | nil =>
    cases u' with
    | nil => exact ⟨rfl, h⟩
    | cons d u' =>
      have hsize := d.utf8Size_pos
      rw [byteLength_nil, byteLength_cons] at hlength
      omega
  | cons c u ih =>
    have hsize := c.utf8Size_pos
    cases u' with
    | nil =>
      rw [byteLength_nil, byteLength_cons] at hlength
      omega
    | cons d u' =>
      rw [List.cons_append, List.cons_append, List.cons.injEq] at h
      obtain ⟨rfl, h⟩ := h
      rw [byteLength_cons, byteLength_cons, Nat.add_left_cancel_iff] at hlength
      obtain ⟨rfl, hv⟩ := ih h hlength
      exact ⟨rfl, hv⟩

/-! ### Which line it is -/

/-- The text through its first newline, or all of it if it has none. -/
def throughNewline : List Char → List Char
  | [] => []
  | c :: cs => if c = '\n' then [c] else c :: throughNewline cs

/-- `line` is the line of the text `cs` that holds the byte at `position`, or that ends there if the
text does. -/
structure IsLineAt (cs : List Char) (position : Nat) (line : Line) : Prop where
  /-- One more than there are newlines before the position. -/
  number : line.number = ((bytes cs).take position).count newline + 1
  /-- The bytes behind the last newline before the position. -/
  offset : line.offset = (((bytes cs).take position).reverse.takeWhile (· != newline)).length
  /-- The line begins so many bytes before the position. -/
  text : ∃ before rest, cs = before ++ rest ∧ byteLength before + line.offset = position ∧
    line.text = throughNewline rest

/-- There is but one such line. -/
theorem IsLineAt.unique {line line' : Line} (h : IsLineAt cs position line)
    (h' : IsLineAt cs position line') : line = line' := by
  obtain ⟨number, text, offset⟩ := line
  obtain ⟨number', text', offset'⟩ := line'
  obtain ⟨hnumber, hoffset, u, v, rfl, hu, hv⟩ := h
  obtain ⟨hnumber', hoffset', u', v', hsplit, hu', hv'⟩ := h'
  obtain rfl : number = number' := hnumber.trans hnumber'.symm
  obtain rfl : offset = offset' := hoffset.trans hoffset'.symm
  obtain ⟨-, rfl⟩ := append_inj_of_byteLength hsplit (Nat.add_right_cancel (hu.trans hu'.symm))
  obtain rfl : text = text' := hv.trans hv'.symm
  rfl

theorem throughNewline_eq_head (cs : List Char) : throughNewline cs = (lines cs).headD [] := by
  induction cs with
  | nil => rfl
  | cons c cs ih =>
    rw [throughNewline, lines]
    split
    · rfl
    · rw [ih]
      cases lines cs <;> rfl

/-- Behind the end of a line no byte is counted that is not in a line. -/
theorem takeWhile_reverse_bytes (hu : EndsLine u) :
    (bytes u).reverse.takeWhile (· != newline) = [] := by
  rcases List.eq_nil_or_concat u with rfl | ⟨init, c, rfl⟩
  · rfl
  · obtain rfl : c = '\n' := hu c (by simp)
    rw [List.concat_eq_append, bytes_append, List.reverse_append]
    rfl

/-- **A position belongs to the line that begins behind `u`** if no newline comes before the
position in it. -/
theorem isLineAt_append (hu : EndsLine u) (hk : k ≤ byteLength v)
    (hv : newline ∉ (bytes v).take k) :
    IsLineAt (u ++ v) (byteLength u + k) ⟨u.count '\n' + 1, throughNewline v, k⟩ := by
  have htake : (bytes (u ++ v)).take (byteLength u + k) = bytes u ++ (bytes v).take k := by
    rw [bytes_append, ← length_bytes, List.take_length_add_append]
  refine ⟨?_, ?_, u, v, rfl, rfl, rfl⟩
  · rw [htake, List.count_append, count_newline_bytes, List.count_eq_zero.2 hv, Nat.add_zero]
  · have hall : ∀ b ∈ ((bytes v).take k).reverse, (b != newline) = true := by
      intro b hb
      rw [bne_iff_ne]
      rintro rfl
      exact hv (List.mem_reverse.1 hb)
    rw [htake, List.reverse_append, List.takeWhile_append_of_pos hall, takeWhile_reverse_bytes hu,
      List.append_nil, List.length_reverse, List.length_take_of_le]
    rwa [length_bytes]

/-! ### Where the search ends -/

/-- The search passes lines that lie before the offset. -/
theorem locate_append (number k : Nat) (before ls : List (List Char)) :
    locate number (byteLength before.flatten + k) (before ++ ls)
      = locate (number + before.length) k ls := by
  induction before generalizing number with
  | nil => rw [List.flatten_nil, byteLength_nil, Nat.zero_add, List.nil_append]; rfl
  | cons b before ih =>
    rw [List.flatten_cons, byteLength_append, Nat.add_assoc, List.cons_append, locate,
      if_neg (by omega), Nat.add_sub_cancel_left, ih, List.length_cons, Nat.add_assoc,
      Nat.add_comm 1]

/-- **An offset inside a line is found in this line.** -/
theorem lineAt?_of_lines (h : lines cs = before ++ l :: after) (hk : k < byteLength l) :
    lineAt? cs (byteLength before.flatten + k) = some ⟨before.length + 1, l, k⟩ := by
  have hlength := congrArg byteLength (flatten_lines cs)
  rw [h, List.flatten_append, List.flatten_cons, byteLength_append, byteLength_append] at hlength
  rw [lineAt?, if_neg (by omega), h, locate_append, locate, if_pos hk, Nat.add_comm]

/-- The end of a text is found behind its lines. -/
theorem lineAt?_byteLength (cs : List Char) :
    lineAt? cs (byteLength cs) = some ⟨(lines cs).length + 1, [], 0⟩ := by
  have hend := locate_append 1 0 (lines cs) []
  rw [flatten_lines, Nat.add_zero, List.append_nil, locate, Nat.add_comm] at hend
  rw [lineAt?, if_neg (Nat.lt_irrefl _), hend]

/-- An offset before the end lies inside one of the lines. -/
theorem exists_line_of_lt {offset : Nat} (h : offset < byteLength ls.flatten) :
    ∃ before l after k, ls = before ++ l :: after ∧ k < byteLength l ∧
      offset = byteLength before.flatten + k := by
  induction ls generalizing offset with
  | nil => simp at h
  | cons l ls ih =>
    by_cases hl : offset < byteLength l
    · exact ⟨[], l, ls, offset, rfl, hl, by simp⟩
    · rw [List.flatten_cons, byteLength_append] at h
      have hrest : offset - byteLength l < byteLength ls.flatten := by omega
      obtain ⟨before, l', after, k, rfl, hk, hoffset⟩ := ih hrest
      refine ⟨l :: before, l', after, k, rfl, hk, ?_⟩
      rw [List.flatten_cons, byteLength_append]
      omega

/-- Before the last byte of a line there is no newline in it. -/
theorem newline_notMem_take (h : l ∈ lines cs) (hk : k < byteLength l) (ds : List Char) :
    newline ∉ (bytes (l ++ ds)).take k := by
  have htake : (bytes (l ++ ds)).take k = (bytes l).take k := by
    rw [bytes_append, List.take_append_of_le_length]
    rw [length_bytes]
    omega
  rw [htake]
  rcases of_mem_lines h with hl | ⟨body, hbody, rfl⟩
  · exact fun hmem => hl (newline_mem_bytes.1 (List.mem_of_mem_take hmem))
  · rw [byteLength_append_newline] at hk
    rw [bytes_append, List.take_append_of_le_length]
    · exact fun hmem => hbody (newline_mem_bytes.1 (List.mem_of_mem_take hmem))
    · rw [length_bytes]
      omega

theorem isLineAt_of_lines (h : lines cs = before ++ l :: after) (hk : k < byteLength l) :
    IsLineAt cs (byteLength before.flatten + k) ⟨before.length + 1, l, k⟩ := by
  have hflat : before.flatten ++ (l ++ after.flatten) = cs := by
    rw [← flatten_lines cs, h, List.flatten_append, List.flatten_cons]
  have hhead : throughNewline (l ++ after.flatten) = l := by
    rw [throughNewline_eq_head, ← List.flatten_cons, lines_flatten_of_append h]
    rfl
  have hline : IsLineAt (before.flatten ++ (l ++ after.flatten)) (byteLength before.flatten + k)
      ⟨before.flatten.count '\n' + 1, throughNewline (l ++ after.flatten), k⟩ := by
    have hmem : l ∈ lines cs := h ▸ List.mem_append_cons_self
    refine isLineAt_append (endsLine_of_lines_append h) ?_ (newline_notMem_take hmem hk _)
    rw [byteLength_append]
    omega
  rwa [hflat, hhead, count_newline_of_lines_append h] at hline

/-- There are as many lines as newlines, and one more if the last line has none. -/
theorem length_lines (cs : List Char) :
    (lines cs).length = cs.count '\n' + if EndsLine cs then 0 else 1 := by
  rcases List.eq_nil_or_concat (lines cs) with hnil | ⟨before, l, hlines⟩
  · obtain rfl : cs = [] := by rw [← flatten_lines cs, hnil]; rfl
    rfl
  · rw [List.concat_eq_append] at hlines
    have hcount := count_newline_of_lines_append hlines
    have hmem : l ∈ lines cs := hlines ▸ List.mem_append_cons_self
    have hflat : cs = before.flatten ++ l := by
      rw [← flatten_lines cs, hlines, List.flatten_append, List.flatten_singleton]
    rw [hlines, hflat, List.count_append, hcount, List.length_append, List.length_singleton]
    rcases of_mem_lines hmem with hl | ⟨body, hbody, rfl⟩
    · have hopen : ¬EndsLine (before.flatten ++ l) := by
        intro hend
        obtain ⟨init, c, rfl⟩ := (List.eq_nil_or_concat l).resolve_left (ne_nil_of_mem_lines hmem)
        obtain rfl : c = '\n' := hend c (by simp)
        exact hl (by simp)
      rw [if_neg hopen, List.count_eq_zero.2 hl]
    · have hend : EndsLine (before.flatten ++ (body ++ ['\n'])) := by
        intro c hc
        simpa [eq_comm] using hc
      rw [if_pos hend, List.count_append, List.count_eq_zero.2 hbody, List.count_singleton_self]

/-! ### The line of a character -/

/-- The text behind its last newline, or all of it if it has none. -/
def behindNewline (cs : List Char) : List Char :=
  (cs.reverse.takeWhile (· != '\n')).reverse

theorem exists_append_behindNewline (u : List Char) :
    ∃ w, u = w ++ behindNewline u ∧ EndsLine w ∧ '\n' ∉ behindNewline u := by
  refine ⟨(u.reverse.dropWhile (· != '\n')).reverse, ?_, fun c hc => ?_, fun hmem => ?_⟩
  · rw [behindNewline, ← List.reverse_append, List.takeWhile_append_dropWhile, List.reverse_reverse]
  · rw [List.getLast?_reverse] at hc
    simpa using head?_dropWhile_eq_false _ _ c hc
  · have hne := List.mem_takeWhile_imp (List.mem_reverse.1 hmem)
    exact absurd hne (by decide)

theorem exists_throughNewline_cons (c : Char) (cs : List Char) :
    ∃ rest, throughNewline (c :: cs) = c :: rest := by
  rw [throughNewline]
  split
  · exact ⟨[], rfl⟩
  · exact ⟨_, rfl⟩

theorem throughNewline_append (h : '\n' ∉ u) (v : List Char) :
    throughNewline (u ++ v) = u ++ throughNewline v := by
  induction u with
  | nil => rfl
  | cons c u ih =>
    rw [List.mem_cons, not_or] at h
    rw [List.cons_append, throughNewline, if_neg (Ne.symm h.1), ih h.2, List.cons_append]

/-- **A character stands in the line that begins behind the last newline before it** and goes through
the next one. -/
theorem exists_lines_eq_append (u : List Char) (c : Char) (v : List Char) :
    ∃ before after, lines (u ++ c :: v) =
        before ++ (behindNewline u ++ throughNewline (c :: v)) :: after ∧
      before.length = u.count '\n' ∧
      byteLength before.flatten + byteLength (behindNewline u) = byteLength u := by
  obtain ⟨w, hu, hw, hnewline⟩ := exists_append_behindNewline u
  have hcount := congrArg (List.count '\n') hu
  have hlength := congrArg byteLength hu
  rw [List.count_append, List.count_eq_zero.2 hnewline] at hcount
  rw [byteLength_append] at hlength
  have hrest : behindNewline u ++ c :: v ≠ [] := by simp
  obtain ⟨l, after, hlines⟩ := List.exists_cons_of_ne_nil (lines_ne_nil hrest)
  have hl : behindNewline u ++ throughNewline (c :: v) = l := by
    rw [← throughNewline_append hnewline, throughNewline_eq_head, hlines]
    rfl
  refine ⟨lines w, after, ?_, ?_, ?_⟩
  · rw [hl, ← hlines, ← lines_append hw, ← List.append_assoc, ← hu]
  · rw [length_lines, if_pos hw, hcount]
  · rw [flatten_lines, hlength]

/-! ### Every offset -/

/-- **Every offset is found in its line, and none past the end**, but for one: the end of a text
whose last line has no newline.  This is found in an empty line, counted as the one behind it. -/
theorem lineAt_iff_isLineAt (cs : List Char) (position : Nat) :
    (lineAt? cs position = none ↔ (bytes cs).length < position) ∧
    ∀ line, lineAt? cs position = some line ↔ position ≤ (bytes cs).length ∧
      if position = (bytes cs).length ∧ ¬EndsLine cs then
        line = ⟨(bytes cs).count newline + 2, [], 0⟩
      else IsLineAt cs position line := by
  rw [length_bytes, count_newline_bytes]
  refine ⟨by rw [lineAt?]; split <;> simp [*], fun line => ?_⟩
  rcases Nat.lt_trichotomy position (byteLength cs) with hlt | rfl | hgt
  · -- inside a line
    have hflat : position < byteLength (lines cs).flatten := by rwa [flatten_lines]
    obtain ⟨before, l, after, k, hlines, hk, rfl⟩ := exists_line_of_lt hflat
    have hline := isLineAt_of_lines hlines hk
    rw [lineAt?_of_lines hlines hk, Option.some.injEq, if_neg (fun h => by omega)]
    exact ⟨fun h => ⟨Nat.le_of_lt hlt, h ▸ hline⟩, fun h => hline.unique h.2⟩
  · rw [lineAt?_byteLength, length_lines, Option.some.injEq]
    by_cases hend : EndsLine cs
    · -- behind the last newline
      have hline := isLineAt_append (v := []) (k := 0) hend (Nat.le_refl 0) (by simp)
      rw [List.append_nil, Nat.add_zero] at hline
      rw [if_pos hend, if_neg (fun h => h.2 hend)]
      exact ⟨fun h => ⟨Nat.le_refl _, h ▸ hline⟩, fun h => hline.unique h.2⟩
    · rw [if_neg hend, if_pos ⟨rfl, hend⟩, eq_comm]
      exact (and_iff_right (Nat.le_refl _)).symm
  · rw [lineAt?, if_pos hgt]
    constructor
    · intro h
      cases h
    · intro h
      omega

/-- The end of a line without a newline is found in a line that the text does not have. -/
theorem end_of_open_line : lineAt? "abc".toList 3 = some ⟨2, [], 0⟩ ∧
    IsLineAt "abc".toList 3 ⟨1, "abc".toList, 3⟩ ∧ ¬IsLineAt "abc".toList 3 ⟨2, [], 0⟩ := by
  have hline : IsLineAt "abc".toList 3 ⟨1, "abc".toList, 3⟩ :=
    isLineAt_append (u := []) (v := "abc".toList) (k := 3) (fun c hc => by simp at hc) (by decide)
      (by decide)
  refine ⟨by decide, hline, fun h => ?_⟩
  have hnumber := congrArg Line.number (h.unique hline)
  exact absurd hnumber (by decide)

end RuleLexer.Text
