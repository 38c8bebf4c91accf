/-!
# Marks

Characters that do not count in a comparison, marks that only count between texts of equal bases,
and characters that stand for a base together with a mark but sort as bases of their own.
-/

namespace Inlay.Collation

def ignored : List String := [
  "0-8 E-1F 7F-84 86-9F AD 34F 488-489 591-5AF 5BD 5C4-5C5 600-605 610-61A 61C 640 6D6-6DD",
  "6DF-6E4 6E7-6E8 6EA-6ED 70F 740 743-744 747-74A 7FA 8D3-8E2 8EA-8EF 8F3 951-952 F18-F19 F35",
  "F37 F3E-F3F F82-F83 F86-F87 FC6 17B4-17B5 17D3 180A-180E 1A7F 1B6B-1B73 1CD0-1CE8 1CF4",
  "1CF7-1CF9 200B-200F 202A-202E 2060-2064 2066-206F 2D7F A670-A672 A8E0-A8F1 FE00-FE0F FE21",
  "FE23-FE26 FE28 FE2A-FE2D FE2F FE73 FEFF FFF9-FFFB 102E0 110BD 110CD 11366-1136C 11370-11374",
  "13430-13438 16FE4 1BCA0-1BCA3 1D165-1D169 1D16D-1D182 1D185-1D18B 1D1AA-1D1AD 1D242-1D244",
  "1DA00-1DA36 1DA3B-1DA6C 1DA75 1DA84 1DA9B-1DA9F 1DAA1-1DAAF 1E8D0-1E8D6 E0001 E0020-E007F",
  "E0100-E01EF"
]

/-- Marks behind the weight they have in common. A form other than the plain one follows a slash. -/
def marks : List String := [
  "21=332 22=313,343,486,2CF1 23=314,485,2CF0 24=301,341,954 25=300,340,953 26=306 27=302",
  "28=30C 29=30A 2A=342 2B=308 2C=30B 2D=303 2E=307 2F=338 30=327 31=328 32=304",
  "33=30D-30E,312,315,31A,33D-33F,346,34A-34C,350-352,357,35B,35D-35E,484,487,741",
  "33=745,B55,17CB-17D1,17DD,1AB0-1AB4,1ABB-1ABC,1DC0-1DC1,1DC3-1DC9,1DCB-1DCE,1DD1",
  "33=1DF5-1DF8,1DFB,1DFE,20F0,2CEF,A67C-A67D,10AE5,10D24-10D27,10F48-10F4A,10F4C 33=1BC9D",
  "34=316-319,31C-320,329-32C,32F,333,33A-33C,347-349,34D-34E,353-356,359-35A,35C",
  "34=35F,362,742,746,7FD,859-85B,1AB5-1ABA,1ABD,1DC2,1DCF-1DD0,1DF9,1DFC-1DFD,1DFF",
  "34=20EC-20EF,FE27,10A0D,10AE6,10F46-10F47,10F4B,10F4D-10F50",
  "35=336-337,20D8-20DA,20E5,20EA-20EB,1BC9E 36=1ABE,20DD-20E0,20E2-20E4 37=3099,FF9E/12",
  "38=309A,FF9F/12 39=335 3A=305 3B=309 3C=30F 3D=310 3E=311 3F=31B 40=321 41=322 42=323 43=324",
  "44=325 45=326 46=32D 47=32E 48=330 49=331 4A=334 4B=339 4C=345 4D=358 4E=360,FE22,FE29",
  "4F=361,FE20 50=483,FE2E 51=A66F 52=5B0 53=5B1 54=5B2 55=5B3 56=5B4 57=5B5 58=5B6 59=5B7",
  "5A=5B8,5C7 5B=5B9-5BA 5C=5BB 5D=5C2 5E=5C1 5F=5BC 60=5BF 61=FB1E 62=81C-81D 63=81E-820",
  "64=821-823 65=824-825 66=826-827 67=828-82A 68=82B 69=82C 6A=818 6B=819 6C=82D",
  "6D=64B,FE71/18,FE70/1A 6E=8F0 6F=8E7 70=64C,FE72/1A 71=8F1 72=8E8 73=64D,FE74/1A 74=8F2",
  "75=8E9 76=64E,FE77/18,FE76/1A 77=8E4 78=8F4 79=8F5 7A=64F,FE79/18,FE78/1A 7B=8E5 7C=8FE",
  "7D=650,FE7B/18,FE7A/1A 7E=8E6 7F=8F6 80=651,AFB,11237,FE7D/18,FE7C/1A",
  "81=652,AFA,1123E,FE7F/18,FE7E/1A 82=653,AFC,10EAC 83=654,10EAB 84=655 85=65F 86=656 87=657",
  "88=658 89=8FF 8A=659 8B=65A 8C=65B 8D=65C 8E=65D 8F=65E 90=8E3 91=8F7 92=8F8 93=8FD 94=8FB",
  "95=8FC 96=8F9 97=8FA 98=670 99=711 9A=730 9B=731 9C=732 9D=733 9E=734 9F=735 A0=736 A1=737",
  "A2=738 A3=739 A4=73A A5=73B A6=73C A7=73D A8=73E A9=73F AA=7EB AB=7EC AC=7ED AD=7EE AE=7EF",
  "AF=7F0 B0=7F1 B1=7F2 B2=7F3 B3=135F B4=135E B5=135D B6=A6F0 B7=A6F1 B8=16AF0 B9=16AF1",
  "BA=16AF2 BB=16AF3 BC=16AF4 BD=1E944-1E946 BE=1E94A BF=1E947 C0=1E948 C1=1E949",
  "C2=93C,9BC,A3C,ABC,AFD-AFF,B3C,CBC,1B34,1BE6,1C37,A9B3,110BA,11173,111CA,11236",
  "C2=112E9,1133B-1133C,11446,114C3,115C0,116B7,1183A,11943,11A33,11D42",
  "C3=900-901,981,A01,A81,B01,C00-C01,C81,D01,D81,1B00-1B01,A8C5,A980,11000,11080",
  "C3=11100,11180,111CF,11301,11443,114BF,115BC,11640,1193C,11A35-11A37,11C3C,11CB6 C3=11D43",
  "C4=902,982,A02,A82,B02,B82,C02,C04,C82,D00,D02,D82,F7E,1036,17C6,1A74,1B02,1B80",
  "C4=1CED,A80B,A880,A981,10A0E,11001,11081,11101,11181,11234,112DF,11300,11302",
  "C4=11444,114C0,115BD,1163D,116AB,11837,1193B,119DE,11A38,11A96,11C3D,11CB5,11D40 C4=11D95",
  "C5=903,983,A03,A83,B03,C03,C83,D03,D83,F7F,1038,17C7,1B04,1B82,1CF2-1CF3,A881",
  "C5=A983,10A0F,11002,11082,11102,11182,11303,11445,114C1,115BE,1163E,116AC,11838",
  "C5=119DF,11A39,11A97,11C3E,11D41,11D96 C6=9FE,111C9,1145E C7=A70 C8=A71 C9=1B03 CA=A982",
  "CB=1B81 CC=ABEC CD=10A38 CE=10A39 CF=10A3A D0=111CB D1=111CC D2=11A98 D3=E4E D4=E47 D5=E48",
  "D6=E49 D7=E4A D8=E4B D9=E4C DA=E4D DB=EC8 DC=EC9 DD=ECA DE=ECB DF=ECC E0=ECD E1=AABF E2=AAC1",
  "E3=F39 E4=A92B E5=A92C E6=A92D E7=1037 E8=17C8 E9=17C9 EA=17CA EB=1A75 EC=1A76 ED=1A77",
  "EE=1A78 EF=1A79 F0=1A7A F1=1A7B F2=1A7C F3=1939 F4=193A F5=193B F6=16B30,1E131",
  "F7=16B31,1E136 F8=16B32,1E132 F9=16B33,1E133 FA=16B34,1E130 FB=16B35,1E134 FC=16B36,1E135",
  "FD=1E2EC FE=1E2ED FF=1E2EE 100=1E2EF 101=302A 102=302B 103=302C 104=302D 105=302E 106=302F",
  "107=16FF0 108=16FF1 109=20D0 10A=20D1 10B=20D2-20D3 10C=20D4 10D=20D5 10E=20D6 10F=20D7",
  "110=20DB 111=20DC 112=20E1 113=20E6 114=20E7 115=20E8 116=20E9 117=101FD"
]

/-- Characters that are spelled out by others and yet sort as bases, behind their spelling. -/
def compositions : List String := [
  "418+306=419 438+306=439 627+653=622 627+654=623 627+655=625 648+654=624 64A+654=626",
  "9C7+9BE=9CB 9C7+9D7=9CC B47+B3E=B4B B47+B56=B48 B47+B57=B4C B92+BD7=B94 BC6+BBE=BCA",
  "BC6+BD7=BCC BC7+BBE=BCB C46+C56=C48 CBF+CD5=CC0 CC6+CC2=CCA CC6+CC2+CD5=CCB CC6+CD5=CC7",
  "CC6+CD6=CC8 D46+D3E=D4A D46+D57=D4C D47+D3E=D4B DD9+DCA=DDA DD9+DCF=DDC DD9+DCF+DCA=DDD",
  "DD9+DDF=DDE F71+F72=F73 F71+F74=F75 F71+F80=F81 FB2+F80=F76 FB3+F80=F78 1025+102E=1026",
  "1B05+1B35=1B06 1B07+1B35=1B08 1B09+1B35=1B0A 1B0B+1B35=1B0C 1B0D+1B35=1B0E 1B11+1B35=1B12",
  "1B3A+1B35=1B3B 1B3C+1B35=1B3D 1B3E+1B35=1B40 1B3F+1B35=1B41 1B42+1B35=1B43"
]

end Inlay.Collation
