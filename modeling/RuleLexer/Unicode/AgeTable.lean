/-!
# The age of every character

`ageText` lists the runs of characters that one edition of the Unicode standard added, up to
edition 16.  A run is written as its first code point in hexadecimal, followed by the edition: a
capital letter, `A` for 1 through `P` for 16, and a digit for the part behind the point unless it
is 0.  It ends where the next one begins.  What the table says of code points that are assigned in
no edition has no meaning.
-/

namespace RuleLexer.Unicode

/-- The runs of one age, first code point and edition, in increasing order. -/
def ageText : String :=
"0A1 1f6C 1faA1 218C 220C2 221D 222C 234D 237D1 242E 250A1 2a9C 2aeD 2b0A1 2dfC 2e0A1 2eaC 2efD
300A1 346C 34fC2 350D 358D1 35dD 360A1 362C 363C2 370E1 374A1 376E1 37aA1 37bE 37eA1 37fG 384A1
3cfE1 3d0A1 3d7C 3d8C2 3daA1 3dbC 3dcA1 3ddC 3deA1 3dfC 3e0A1 3e1C 3e2A1 3f4C1 3f6C2 3f7D 3fcD1
400C 401A1 40dC 40eA1 450C 451A1 45dC 45eA1 487E1 488C 48aC2 48cC 490A1 4c5C2 4c7A1 4c9C2 4cbA1
4cdC2 4cfE 4d0A1 4ecC 4eeA1 4f6D1 4f8A1 4faE 500C2 510E 514E1 524E2 526F 528G 531A1 560K 561A1
588K 589A1 58aC 58dG 58fF1 591B 5a2D1 5a3B 5b0A1 5baE 5bbA1 5c4B 5c5D1 5d0A1 5efK 5f0A1 600D 604F1
605G 606E1 60bD1 60cA1 60dD 616E1 61bA1 61cF3 61dN 61eD1 61fA1 620F 621A1 63bE1 640A1 653C 656D
659D1 65fF 660A1 66eC2 670A1 6b8C 6baA1 6bfC 6c0A1 6cfC 6d0A1 6eeD 6f0A1 6faC 6ffD 700C 72dD 730C
74dD 750D1 76eE1 780C 7b1C2 7c0E 7fdK 800E2 840F 860J 870N 897P 898N 8a0F1 8a1G 8a2F1 8adG 8b3H
8b5N 8b6I 8beM 8c8N 8d3K 8d4I 8e3H 8e4F1 8ffG 900E2 901A1 904D 905A1 93aF 93cA1 94eE2 94fF 950A1
955E2 956F 958A1 971E1 973F 978G 979E2 97bE 97dD1 97eE 980G 981A1 9bdD 9beA1 9ceD1 9d7A1 9fbE2
9fcJ 9feK a01D a02A1 a03D a05A1 a51E1 a59A1 a75E1 a76K a81A1 a8cD a8dA1 ae1D ae6A1 af0F1 af1D af9H
afaJ b01A1 b35D b36A1 b44E1 b47A1 b55M b56A1 b62E1 b66A1 b71D b72F b82A1 bb6D1 bb7A1 bd0E1 bd7A1
be6D1 be7A1 bf3D c00G c01A1 c04K c05A1 c34G c35A1 c3cN c3dE1 c3eA1 c58E1 c5aH c5dN c60A1 c62E1
c66A1 c77L c78E1 c80I c81G c82A1 c84K c85A1 cbcD cbeA1 cddN cdeA1 ce2E ce6A1 cf1E cf3O d00J d01G
d02A1 d04M d05A1 d29F d2aA1 d3aF d3bJ d3dE1 d3eA1 d44E1 d46A1 d4eF d4fI d57A1 d58I d5fH d60A1
d62E1 d66A1 d70E1 d76I d79E1 d81M d82C de6G df2C e01A1 e86L e87A1 e89L e8aA1 e8cL e8dA1 e8eL e94A1
e98L e99A1 ea0L ea1A1 ea8L eaaA1 eacL eadA1 ebaL ebbA1 eceO ed0A1 edeF1 f00B f6aC f6bE1 f71B f8cF
f90B f96C f97B faeC fb1B fb8C fb9B fbaC fceE1 fcfC fd0D1 fd2E1 fd5E2 fd9F 1000C 1022E1 1023C
1028E1 1029C 102bE1 102cC 1033E1 1036C 103aE1 1040C 105aE1 109aE2 109eE1 10a0A1 10c7F1 10d0A1
10f7C2 10f9D1 10fbA1 10fcD1 10fdF1 1100A1 115aE2 115fA1 11a3E2 11a8A1 11faE2 1200C 1207D1 1208C
1247D1 1248C 1287D1 1288C 12afD1 12b0C 12cfD1 12d0C 12efD1 12f0C 130fD1 1310C 131fD1 1320C 1347D1
1348C 135dF 135fD1 1361C 1380D1 13a0C 13f5H 1400E2 1401C 1677E2 1680C 16f1G 1700C2 170dN 170eC2
1715N 1720C2 1780C 17ddD 17e0C 17f0D 1800C 180fN 1810C 1878K 1880C 18aaE1 18b0E2 1900D 191dG 1920D
1980D1 19aaE2 19b0D1 19daE2 19deD1 19e0D 1a00D1 1a20E2 1ab0G 1abfM 1ac1N 1b00E 1b4cN 1b4eP 1b50E
1b7dN 1b7fP 1b80E1 1babF1 1baeE1 1bbaF1 1bc0F 1c00E1 1c80I 1c89P 1c90K 1cc0F1 1cd0E2 1cf3F1 1cf7J
1cf8G 1cfaL 1d00D 1d6cD1 1dc4E 1dcbE1 1de7G 1df6J 1dfaN 1dfbI 1dfcF 1dfdE2 1dfeE 1e00A1 1e9bB
1e9cE1 1ea0A1 1efaE1 1f00A1 202fC 2030A1 2047C2 2048C 204eC2 2053D 2055D1 2057C2 2058D1 205fC2
2064E1 2066F3 206aA1 2071C2 2074A1 2090D1 2095F 20a0A1 20abB 20acB1 20adC 20b0C2 20b2D1 20b6E2
20b9F 20baF2 20bbG 20beH 20bfJ 20c0N 20d0A1 20e2C 20e4C2 20ebD1 20ecE 20f0E1 2100A1 2139C 213bD
213cD1 213dC2 214cD1 214dE 214fE1 2150E2 2153A1 2183C 2184E 2185E1 2189E2 218aH 2190A1 21ebC
21f4C2 2200A1 22f2C2 2300A1 2301C 2302A1 237bC 237cC2 237dC 239bC2 23cfD 23d1D1 23dcE 23e8E2 23e9F
23f4G 23fbI 23ffJ 2400A1 2425C 2427P 2440A1 24ebC2 24ffD 2500A1 2596C2 25a0A1 25f0C 25f8C2 2600A1
2614D 2616C2 2618D1 2619C 261aA1 2670C 2672C2 267eD1 2680C2 268aD 2692D1 269dE1 269eE2 26a0D
26a2D1 26b2E 26b3E1 26bdE2 26c0E1 26c4E2 26ceF 26cfE2 26e2F 26e3E2 26e4F 26e8E2 2700G 2701A1 2705F
2706A1 270aF 270cA1 2728F 2729A1 274cF 274dA1 274eF 274fA1 2753F 2756A1 2757E2 2758A1 275fF 2761A1
2768C2 2776A1 2795F 2798A1 27b0F 27b1A1 27bfF 27c0D1 27c7E 27cbF1 27ccE1 27cdF1 27ceF 27d0C2
27ecE1 27f0C2 2800C 2900C2 2b00D 2b0eD1 2b14E 2b1bE1 2b20E 2b24E1 2b4dG 2b50E1 2b55E2 2b5aG 2b97M
2b98G 2bbaK 2bbdG 2bc9L 2bcaG 2bd2J 2bd3K 2becH 2bf0K 2bffL 2c00D1 2c2fN 2c30D1 2c5fN 2c60E 2c6dE1
2c70E2 2c71E1 2c74E 2c78E1 2c7eE2 2c80D1 2cebE2 2cf2F1 2cf9D1 2d27F1 2d30D1 2d66F1 2d6fD1 2d70F
2d80D1 2de0E1 2e00D1 2e18E1 2e1cD1 2e1eE1 2e31E2 2e32F1 2e3cG 2e43I 2e45J 2e4aK 2e4fL 2e50M 2e53N
2e80C 2ffcO1 3000A1 3038C 303bC2 303eC 303fA1 3095C2 3099A1 309fC2 30a1A1 30ffC2 3105A1 312dE1
312eJ 312fK 3131A1 31a0C 31b8F 31bbM 31c0D1 31d0E1 31e4P 31efO1 31f0C2 3200A1 321dD 3220A1 3244E2
3250D 3251C2 3260A1 327cD 327eD1 327fA1 32b1C2 32c0A1 32ccD 32d0A1 32ffL1 3300A1 3377D 337bA1
33deD 33e0A1 33ffD 3400C 4db6M 4dc0D 4e00A1 9fa6D1 9fbcE1 9fc4E2 9fccF1 9fcdH 9fd6J 9febK 9ff0M
9ffdN a000C a4a2C2 a4a4C a4b4C2 a4b5C a4c1C2 a4c2C a4c5C2 a4c6C a4d0E2 a500E1 a660F a662E1 a674F1
a67cE1 a698G a69eH a69fF1 a6a0E2 a700D1 a717E a71bE1 a720E a722E1 a78dF a78fH a790F a792F1 a794G
a7a0F a7aaF1 a7abG a7aeI a7afK a7b0G a7b2H a7b8K a7baL a7c0N a7c2L a7c7M a7cbP a7d0N a7daP a7f2N
a7f5M a7f7G a7f8F1 a7faF a7fbE1 a800D1 a82cM a830E2 a840E a880E1 a8c5I a8ceE1 a8e0E2 a8fcH a8feK
a900E1 a960E2 a9e0G aa00E1 aa60E2 aa7cG aa80E2 aae0F1 ab01F ab30G ab60H ab64G ab66L ab68M ab70H
abc0E2 ac00B d7b0E2 e000A1 fa2eF1 fa30C2 fa6bE2 fa70D1 fb00A1 fb1dC fb1eA1 fbb2F fbc2N fbd3A1
fd40N fd50A1 fdcfN fdd0C1 fdf0A1 fdfcC2 fdfdD fdfeN fe00C2 fe10D1 fe20A1 fe24E1 fe27G fe2eH fe30A1
fe45C2 fe47D fe49A1 fe73C2 fe74A1 ff5fC2 ff61A1 fff9C fffcB1 fffdA1 10000D 10140D1 1018bG 1018dI
10190E1 1019cM 101a0G 101d0E1 102e0G 10300C1 1031fG 10320C1 1032dJ 10330C1 10350G 10380D 103a0D1
10400C1 10426D 10428C1 1044eD 104b0I 10500G 10570N 105c0P 10600G 10780N 10800D 10840E2 10860G
108e0H 10900E 1091aE2 1091fE 10920E1 10980F1 109bcH 109beF1 109c0H 10a00D1 10a34K 10a38D1 10a48K
10a50D1 10a60E2 10a80G 10b00E2 10b80G 10c00E2 10c80H 10d00K 10d40P 10e60E2 10e80M 10ec2P 10efdO
10f00K 10f70N 10fb0M 10fe0L 11000F 11070N 1107fG 11080E2 110c2N 110cdK 110d0F1 11144K 11147M
11150G 11180F1 111c9H 111cdG 111ceM 111d0F1 111daG 111dbH 111e1G 1123eI 1123fO 11280H 112b0G
11300H 11301G 1133bK 1133cG 11350H 11357G 11380P 11400I 1145aM 1145bI 1145eK 1145fL 11460M 11480G
115caH 11600G 11660I 11680F1 116b8L 116b9N 116c0F1 116d0P 11700H 1171aK 1171dH 11740N 11800K
118a0G 11900M 119a0L 11a00J 11a84L 11a86J 11a9dK 11a9eJ 11ab0N 11ac0G 11b00O 11bc0P 11c00I 11d00J
11d60K 11f00O 11f5aP 11fb0M 11fc0L 12000E 1236fG 12399H 12400E 12463G 12470E 12474G 12480H 12f90N
13000E2 1342fO 13430L 13439O 13460P 14400H 16100P 16800F 16a40G 16a70N 16ad0G 16d40P 16e40K
16f00F1 16f45L 16f50F1 16f7fL 16f8fF1 16fe0I 16fe1J 16fe2L 16fe4M 17000I 187edK 187f2L 18800I
18af3M 18cffP 18d00M 1aff0N 1b000F 1b002J 1b11fN 1b132O 1b150L 1b155O 1b164L 1b170J 1bc00G 1cc00P
1cf00N 1d000C1 1d129E1 1d12aC1 1d1deH 1d1e9N 1d200D1 1d2c0O 1d2e0K 1d300D 1d360E 1d372K 1d400C1
1d4c1D 1d4c2C1 1d6a4D1 1d6a8C1 1d7caE 1d7ceC1 1d800H 1df00N 1df25O 1e000I 1e030O 1e100L 1e290N
1e2c0L 1e4d0O 1e5d0P 1e7e0N 1e800G 1e900I 1e94bL 1e950I 1ec71K 1ed01L 1ee00F1 1f000E1 1f0a0F
1f0bfG 1f0c1F 1f0e0G 1f100E2 1f10bG 1f10dM 1f110E2 1f12fK 1f130F 1f131E2 1f132F 1f13dE2 1f13eF
1f13fE2 1f140F 1f142E2 1f143F 1f146E2 1f147F 1f14aE2 1f14fF 1f157E2 1f158F 1f15fE2 1f160F 1f16aF1
1f16cL 1f16dM 1f170F 1f179E2 1f17aF 1f17bE2 1f17dF 1f17fE2 1f180F 1f18aE2 1f18eF 1f190E2 1f191F
1f19bI 1f1adM 1f1e6F 1f200E2 1f201F 1f210E2 1f232F 1f23bI 1f240E2 1f250F 1f260J 1f300F 1f321G
1f32dH 1f330F 1f336G 1f337F 1f37dG 1f37eH 1f380F 1f394G 1f3a0F 1f3c5G 1f3c6F 1f3cbG 1f3cfH 1f3d4G
1f3e0F 1f3f1G 1f3f8H 1f400F 1f43fG 1f440F 1f441G 1f442F 1f4f8G 1f4f9F 1f4fdG 1f4ffH 1f500F 1f53eG
1f540F1 1f544G 1f54bH 1f550F 1f568G 1f57aI 1f57bG 1f5a4I 1f5a5G 1f5fbF 1f600F1 1f601F 1f611F1
1f612F 1f615F1 1f616F 1f617F1 1f618F 1f619F1 1f61aF 1f61bF1 1f61cF 1f61fF1 1f620F 1f626F1 1f628F
1f62cF1 1f62dF 1f62eF1 1f630F 1f634F1 1f635F 1f641G 1f643H 1f645F 1f650G 1f680F 1f6c6G 1f6d0H
1f6d1I 1f6d3J 1f6d5L 1f6d6M 1f6dcO 1f6ddN 1f6e0G 1f6f4I 1f6f7J 1f6f9K 1f6faL 1f6fbM 1f700F 1f774O
1f780G 1f7d5K 1f7d9O 1f7e0L 1f7f0N 1f800G 1f8b0M 1f8b2P 1f900J 1f90cM 1f90dL 1f910H 1f919I 1f91fJ
1f920I 1f928J 1f930I 1f931J 1f933I 1f93fL 1f940I 1f94cJ 1f94dK 1f950I 1f95fJ 1f96cK 1f971L 1f972M
1f973K 1f977M 1f979N 1f97aK 1f97bL 1f97cK 1f980H 1f985I 1f992J 1f998K 1f9a3M 1f9a5L 1f9abM 1f9aeL
1f9b0K 1f9baL 1f9c0H 1f9c1K 1f9c3L 1f9cbM 1f9ccN 1f9cdL 1f9d0J 1f9e7K 1fa00L 1fa60K 1fa70L 1fa74M
1fa75O 1fa78L 1fa7bN 1fa80L 1fa83M 1fa87O 1fa89P 1fa90L 1fa96M 1faa9N 1faadO 1fab0M 1fab7N 1fabbO
1fabeP 1fabfO 1fac0M 1fac3N 1fac6P 1faceO 1fad0M 1fad7N 1fadaO 1fadcP 1fae0N 1fae8O 1fae9P 1faf0N
1faf7O 1fb00M 1fbcbP 1fbf0M 1fffeB 20000C1 2a6d7M 2a6deN 2a700E2 2b735N 2b739O 2b740F 2b820H
2ceb0J 2ebf0O1 2f800C1 2fffeB 30000M 31350O 3fffeB e0001C1 e0100D efffeB"

end RuleLexer.Unicode
