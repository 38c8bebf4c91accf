/-!
# Variants below U+1E00

Characters that sort as others do, and behind them only between texts that are equal otherwise.
`C9=65/8+301` says that a character sorts as the base 65 in the form 8 with the mark 301; the plain
form is left out. A weight behind `@` is that of a mark which no character is alone. In a run
`first-last` the base goes up with the character, or stays where a colon stands for the equals
sign. These are the letters and digits of the first blocks.
-/

namespace Inlay.Collation

/-- The variants below U+1E00. -/
def letters : List String := [
  "41-5A=61/8 A0=20/1B AA=61/14 B2-B3=32/14 B5=3BC/4 B9=31/14 BA=6F/14 BC=31/1E+2044/1E+34/1E",
  "BD=31/1E+2044/1E+32/1E BE=33/1E+2044/1E+34/1E C0=61/8+300 C1=61/8+301 C2=61/8+302",
  "C3=61/8+303 C4=61/8+308 C5=61/8+30A C6=61/A+@118/4+65/A C7=63/8+327 C8=65/8+300 C9=65/8+301",
  "CA=65/8+302 CB=65/8+308 CC=69/8+300 CD=69/8+301 CE=69/8+302 CF=69/8+308 D0=64/A+@118/4",
  "D1=6E/8+303 D2=6F/8+300 D3=6F/8+301 D4=6F/8+302 D5=6F/8+303 D6=6F/8+308 D8=6F/8+338",
  "D9=75/8+300 DA=75/8+301 DB=75/8+302 DC=75/8+308 DD=79/8+301 DE=FE/8 DF=73/4+@118/4+73/4",
  "E0=61+300 E1=61+301 E2=61+302 E3=61+303 E4=61+308 E5=61+30A E6=61/4+@118/4+65/4 E7=63+327",
  "E8=65+300 E9=65+301 EA=65+302 EB=65+308 EC=69+300 ED=69+301 EE=69+302 EF=69+308",
  "F0=64/4+@118/4 F1=6E+303 F2=6F+300 F3=6F+301 F4=6F+302 F5=6F+303 F6=6F+308 F8=6F+338",
  "F9=75+300 FA=75+301 FB=75+302 FC=75+308 FD=79+301 FF=79+308 100=61/8+304 101=61+304",
  "102=61/8+306 103=61+306 104=61/8+328 105=61+328 106=63/8+301 107=63+301 108=63/8+302",
  "109=63+302 10A=63/8+307 10B=63+307 10C=63/8+30C 10D=63+30C 10E=64/8+30C 10F=64+30C",
  "110=64/8+335 111=64+335 112=65/8+304 113=65+304 114=65/8+306 115=65+306 116=65/8+307",
  "117=65+307 118=65/8+328 119=65+328 11A=65/8+30C 11B=65+30C 11C=67/8+302 11D=67+302",
  "11E=67/8+306 11F=67+306 120=67/8+307 121=67+307 122=67/8+327 123=67+327 124=68/8+302",
  "125=68+302 126=68/8+335 127=68+335 128=69/8+303 129=69+303 12A=69/8+304 12B=69+304",
  "12C=69/8+306 12D=69+306 12E=69/8+328 12F=69+328 130=69/8+307 132=69/A+6A/A 133=69/4+6A/4",
  "134=6A/8+302 135=6A+302 136=6B/8+327 137=6B+327 139=6C/8+301 13A=6C+301 13B=6C/8+327",
  "13C=6C+327 13D=6C/8+30C 13E=6C+30C 13F=6C/8+@118 140=6C+@118 141=6C/8+335 142=6C+335",
  "143=6E/8+301 144=6E+301 145=6E/8+327 146=6E+327 147=6E/8+30C 148=6E+30C 149=2BC/4+6E/4",
  "14A=14B/8 14C=6F/8+304 14D=6F+304 14E=6F/8+306 14F=6F+306 150=6F/8+30B 151=6F+30B",
  "152=6F/A+@118/4+65/A 153=6F/4+@118/4+65/4 154=72/8+301 155=72+301 156=72/8+327 157=72+327",
  "158=72/8+30C 159=72+30C 15A=73/8+301 15B=73+301 15C=73/8+302 15D=73+302 15E=73/8+327",
  "15F=73+327 160=73/8+30C 161=73+30C 162=74/8+327 163=74+327 164=74/8+30C 165=74+30C 166=167/8",
  "168=75/8+303 169=75+303 16A=75/8+304 16B=75+304 16C=75/8+306 16D=75+306 16E=75/8+30A",
  "16F=75+30A 170=75/8+30B 171=75+30B 172=75/8+328 173=75+328 174=77/8+302 175=77+302",
  "176=79/8+302 177=79+302 178=79/8+308 179=7A/8+301 17A=7A+301 17B=7A/8+307 17C=7A+307",
  "17D=7A/8+30C 17E=7A+30C 17F=73/4+@119/4 181=253/8 182=183/8 184=185/8 186=254/8 187=188/8",
  "189-18A=256/8 18B=18C/8 18D=7A/4+77/4 18E=1DD/8 18F=259/8 190=25B/8 191=192/8 193=260/8",
  "194=263/8 196=269/8 197=268/8 198=199/8 19C=26F/8 19D=272/8 19F=275/8 1A0=6F/8+31B",
  "1A1=6F+31B 1A2=1A3/8 1A4=1A5/8 1A6=280/8 1A7=1A8/8 1A9=283/8 1AC=1AD/8 1AE=288/8",
  "1AF=75/8+31B 1B0=75+31B 1B1-1B2=28A/8 1B3=1B4/8 1B5=1B6/8 1B7=292/8 1B8=1B9/8 1BC=1BD/8",
  "1BE=74/4+73/4 1C4=64/A+7A/A+30C/4 1C5=64/A+7A/4+30C/4 1C6=64/4+7A/4+30C/4 1C7=6C/A+6A/A",
  "1C8=6C/A+6A/4 1C9=6C/4+6A/4 1CA=6E/A+6A/A 1CB=6E/A+6A/4 1CC=6E/4+6A/4 1CD=61/8+30C",
  "1CE=61+30C 1CF=69/8+30C 1D0=69+30C 1D1=6F/8+30C 1D2=6F+30C 1D3=75/8+30C 1D4=75+30C",
  "1D5=75/8+308+304 1D6=75+308+304 1D7=75/8+308+301 1D8=75+308+301 1D9=75/8+308+30C",
  "1DA=75+308+30C 1DB=75/8+308+300 1DC=75+308+300 1DE=61/8+308+304 1DF=61+308+304",
  "1E0=61/8+307+304 1E1=61+307+304 1E2=61/A+@118/4+65/A+304 1E3=61/4+@118/4+65/4+304 1E4=1E5/8",
  "1E6=67/8+30C 1E7=67+30C 1E8=6B/8+30C 1E9=6B+30C 1EA=6F/8+328 1EB=6F+328 1EC=6F/8+328+304",
  "1ED=6F+328+304 1EE=292/8+30C 1EF=292+30C 1F0=6A+30C 1F1=64/A+7A/A 1F2=64/A+7A/4",
  "1F3=64/4+7A/4 1F4=67/8+301 1F5=67+301 1F6=195/8 1F7=1BF/8 1F8=6E/8+300 1F9=6E+300",
  "1FA=61/8+30A+301 1FB=61+30A+301 1FC=61/A+@118/4+65/A+301 1FD=61/4+@118/4+65/4+301",
  "1FE=6F/8+338+301 1FF=6F+338+301 200=61/8+30F 201=61+30F 202=61/8+311 203=61+311 204=65/8+30F",
  "205=65+30F 206=65/8+311 207=65+311 208=69/8+30F 209=69+30F 20A=69/8+311 20B=69+311",
  "20C=6F/8+30F 20D=6F+30F 20E=6F/8+311 20F=6F+311 210=72/8+30F 211=72+30F 212=72/8+311",
  "213=72+311 214=75/8+30F 215=75+30F 216=75/8+311 217=75+311 218=73/8+326 219=73+326",
  "21A=74/8+326 21B=74+326 21C=21D/8 21E=68/8+30C 21F=68+30C 220=19E/8 222=223/8 224=225/8",
  "226=61/8+307 227=61+307 228=65/8+327 229=65+327 22A=6F/8+308+304 22B=6F+308+304",
  "22C=6F/8+303+304 22D=6F+303+304 22E=6F/8+307 22F=6F+307 230=6F/8+307+304 231=6F+307+304",
  "232=79/8+304 233=79+304 238=64/4+62/4 239=71/4+70/4 23A=2C65/8 23B=23C/8 23D=19A/8",
  "23E=2C66/8 241=242/8 243=180/8 244=289/8 245=28C/8 246=247/8 248=249/8 24A=24B/8 24C=24D/8",
  "24E=24F/8 2A3=64/4+7A/4 2A4=64/4+292/4 2A5=64/4+291/4 2A6=74/4+73/4 2A7=74/4+283/4",
  "2A8=74/4+255/4 2A9=66/4+14B/4 2AA=6C/4+73/4 2AB=6C/4+7A/4 2B0=68/14 2B1=266/14 2B2=6A/14",
  "2B3=72/14 2B4=279/14 2B5=27B/14 2B6=281/14 2B7=77/14 2B8=79/14 2E0=263/14 2E1=6C/14",
  "2E2=73/14 2E3=78/14 2E4=295/14 344=308+301 363=61/4 364=65/4 365=69/4 366=6F/4 367=75/4",
  "368-369=63/4 36A=68/4 36B=6D/4 36C=72/4 36D=74/4 36E=76/4 36F=78/4 370=371/8 372=373/8",
  "374=2B9 376=377/8 37A=3B9/4 37E=3B 37F=3F3/8 384=B4 385=A8+301 386=3B1/8+301 387=B7",
  "388=3B5/8+301 389=3B7/8+301 38A=3B9/8+301 38C=3BF/8+301 38E=3C5/8+301 38F=3C9/8+301",
  "390=3B9+308+301 391-3A1=3B1/8 3A3-3A9=3C3/8 3AA=3B9/8+308 3AB=3C5/8+308 3AC=3B1+301",
  "3AD=3B5+301 3AE=3B7+301 3AF=3B9+301 3B0=3C5+308+301 3C2=3C3/19 3CA=3B9+308 3CB=3C5+308",
  "3CC=3BF+301 3CD=3C5+301 3CE=3C9+301 3CF=3BA/A+3B1/4+3B9/4 3D0=3B2/4 3D1=3B8/4 3D2=3C5/A",
  "3D3=3C5/A+301 3D4=3C5/A+308 3D5=3C6/4 3D6=3C0/4 3D7=3BA/4+3B1/4+3B9/4 3D8=3D9/8 3DA=3DB/8",
  "3DC=3DD/8 3DE=3DF/8 3E0=3E1/8 3E2=3E3/8 3E4=3E5/8 3E6=3E7/8 3E8=3E9/8 3EA=3EB/8 3EC=3ED/8",
  "3EE=3EF/8 3F0=3BA/4 3F1=3C1/4 3F2=3C3/4 3F4=3B8/A 3F5=3B5/4 3F7=3F8/8 3F9=3C3/A 3FA=3FB/8",
  "3FD-3FF=37B/8 400=435/8+300 401=435/8+308 402=452/8 403=433/8+301 404-406=454/8",
  "407=456/8+308 408-40B=458/8 40C=43A/8+301 40D=438/8+300 40E=443/8+306 40F=45F/8",
  "410-42F=430/8 450=435+300 451=435+308 453=433+301 457=456+308 45C=43A+301 45D=438+300",
  "45E=443+306 460=461/8 462=463/8 464=465/8 466=467/8 468=469/8 46A=46B/8 46C=46D/8 46E=46F/8",
  "470=471/8 472=473/8 474=475/8 476=475/8+30F 477=475+30F 478=479/8 47A=47B/8 47C=47D/8",
  "47E=47F/8 480=481/8 48A=48B/8 48C=48D/8 48E=48F/8 490=433/A+@119/4 491=433/4+@119/4",
  "492=493/8 494=495/8 496=497/8 498=499/8 49A=49B/8 49C=49D/8 49E=49F/8 4A0=4A1/8 4A2=4A3/8",
  "4A4=4A5/8 4A6=4A7/8 4A8=4A9/8 4AA=4AB/8 4AC=4AD/8 4AE=4AF/8 4B0=4B1/8 4B2=4B3/8 4B4=4B5/8",
  "4B6=4B7/8 4B8=4B9/8 4BA=4BB/8 4BC=4BD/8 4BE=4BF/8 4C0=4CF/8 4C1=436/8+306 4C2=436+306",
  "4C3=4C4/8 4C5=4C6/8 4C7=4C8/8 4C9=4CA/8 4CB=4CC/8 4CD=4CE/8 4D0=430/8+306 4D1=430+306",
  "4D2=430/8+308 4D3=430+308 4D4=4D5/8 4D6=435/8+306 4D7=435+306 4D8=4D9/8 4DA=4D9/8+308",
  "4DB=4D9+308 4DC=436/8+308 4DD=436+308 4DE=437/8+308 4DF=437+308 4E0=4E1/8 4E2=438/8+304",
  "4E3=438+304 4E4=438/8+308 4E5=438+308 4E6=43E/8+308 4E7=43E+308 4E8=4E9/8 4EA=4E9/8+308",
  "4EB=4E9+308 4EC=44D/8+308 4ED=44D+308 4EE=443/8+304 4EF=443+304 4F0=443/8+308 4F1=443+308",
  "4F2=443/8+30B 4F3=443+30B 4F4=447/8+308 4F5=447+308 4F6=4F7/8 4F8=44B/8+308 4F9=44B+308",
  "4FA=4FB/8 4FC=4FD/8 4FE=4FF/8 500=501/8 502=503/8 504=505/8 506=507/8 508=509/8 50A=50B/8",
  "50C=50D/8 50E=50F/8 510=511/8 512=513/8 514=515/8 516=517/8 518=519/8 51A=51B/8 51C=51D/8",
  "51E=51F/8 520=521/8 522=523/8 524=525/8 526=527/8 528=529/8 52A=52B/8 52C=52D/8 52E=52F/8",
  "531-556=561/8 587=565/4+582/4 5DA=5DB/19 5DD=5DE/19 5DF=5E0/19 5E3=5E4/19 5E5=5E6/19",
  "5EF=5D9/4+5D4/4+5D5/4+5D4/4 5F0=5D5/4+5D5/4 5F1=5D5/4+5D9/4 5F2=5D9/4+5D9/4 660-669=30",
  "674=621/4 675=627/4+621/4 676=648/4+621/4 677=6C7/4+621/4 678=64A/4+621/4 6C0=6D5+654",
  "6C2=6C1+654 6D3=6D2+654 6E5=648/4 6E6=64A/4 6F0-6F9=30 6FD=621/4+@119/4 6FE=645/4+@119/4",
  "714=713/4+@119/4 71C=71B/4+@119/4 724=723/19 727=726/4+@119/4 72D=712/4+@11A/4",
  "72E=713/4+@11A/4 72F=715/4+@11A/4 7C0-7C9=30 7E8=7D6/4+@118/4 7E9=7D7/4+@118/4",
  "7EA=7D9/4+@118/4 8AD=627/4 929=928+93C 931=930+93C 934=933+93C 958=915+93C 959=916+93C",
  "95A=917+93C 95B=91C+93C 95C=921+93C 95D=922+93C 95E=92B+93C 95F=92F+93C 966-96F=30",
  "9CE=9A4/4+9CD/4 9DC=9A1+93C 9DD=9A2+93C 9DF=9AF+93C 9E6-9EF=30 A33=A32+93C A36=A38+93C",
  "A59=A16+93C A5A=A17+93C A5B=A1C+93C A5E=A2B+93C A66-A6F=30 AE6-AEF=30 B5C=B21+93C",
  "B5D=B22+93C B66-B6F=30 BE6-BEF=30 C66-C6F=30 C78-C7B=30 C7C-C7E=31 CE6-CEF=30 D3B-D3C:D4D/4",
  "D4E=D30/4+D4D/4 D54=D2E/4+D4D/4 D55=D2F/4+D4D/4 D56=D34/4+D4D/4 D66-D6F=30 D7A=D23/4+D4D/4",
  "D7B=D28/4+D4D/4 D7C=D30/4+D4D/4 D7D=D32/4+D4D/4 D7E=D33/4+D4D/4 D7F=D15/4+D4D/4 DE6-DEF=30",
  "E50-E59=30 ED0-ED9=30 EDC=EAB/4+E99/4 EDD=EAB/4+EA1/4 F00=F68/4+F7C/4+902/4 F0C=F0B/1B",
  "F20-F29=30 F2A-F32=31/4 F33=30/4 F43=F42+FB7 F4D=F4C+FB7 F52=F51+FB7 F57=F56+FB7 F5C=F5B+FB7",
  "F69=F40+FB5 F6A=F62/4+@119/4 F93=F92+FB7 F9D=F9C+FB7 FA2=FA1+FB7 FA7=FA6+FB7 FAC=FAB+FB7",
  "FB9=F90+FB5 FBA=FAD/4+@119/4 FBB=FB1/4+@119/4 FBC=FB2/4+@119/4 102B=102C/4",
  "103F=101E/4+1039/4+101E/4 1040-1049=30 1090-1099=30 10A0-10C5=2D00/8 10C7=2D27/8 10CD=2D2D/8",
  "10FC=10DC/14 1369-1371=31 13A0-13EF=AB70/8 13F0-13F5=13F8/8 1680=20/4 16A1=16A0/4+@118/4",
  "16A4=16A2/4+@118/4 16A5=16A2/4+@119/4 16A7=16A6/4+@118/4 16A9=16A8/4+@118/4",
  "16AC=16A8/4+@119/4 16AD=16A8/4+@11A/4 16AE=16A8/4+@11B/4 16B3=16B2/4+@118/4",
  "16B4=16B2/4+@119/4 16B5=16B2/4+@11A/4 16B6=16B2/4+@11B/4 16BB=16BA/4+@118/4",
  "16BC=16BA/4+@119/4 16BD=16BA/4+@11A/4 16BF=16BE/4+@118/4 16C0=16BE/4+@119/4",
  "16C2=16C1/4+@118/4 16C4=16C3/4+@118/4 16C6=16C5/4+@118/4 16CB=16CA/4+@118/4",
  "16CC=16CA/4+@11A/4 16CD=16CA/4+@11B/4 16CE=16CA/4+@11C/4 16D0=16CF/4+@118/4",
  "16D1=16CF/4+@119/4 16D3=16D2/4+@118/4 16D4=16D2/4+@119/4 16D5=16C8/4+@118/4",
  "16D8=16D7/4+@118/4 16D9=16D7/4+@119/4 16DB=16DA/4+@118/4 16DD=16DC/4+@118/4",
  "16E7=16E6/4+@118/4 16E8=16E6/4+@119/4 16E9=16B9/4+@118/4 16EA=16CA/4+@119/4",
  "16EE=16C5/4+16DA/4 16EF=16D7/4+@118/4+16D7/4+@118/4 16F0=16A6/4+16A6/4 17E0-17E9=30",
  "17F0-17F9=30 1810-1819=30 191D=1908/4+1929/4 191E=190B/4+192A/4 1946-194F=30 19D0-19D9=30",
  "19DA=31 19DE=199C/4+19B6/4 19DF=199C/4+19B6/4+19C1/4 1A54=1A46/4+1A60/4+1A46/4",
  "1A58-1A59:1A26/4 1A5A-1A5B:1A3B/4 1A64=1A63/4 1A80-1A89=30 1A90-1A99=30 1ABF=77/4 1AC0=28D/4",
  "1B50-1B59=30 1BB0-1BB9=30 1BBA=1B83/4 1BBE=1B8A/19 1BBF=1B99/19 1BC1=1BC0/4 1BC3-1BC4:1BC2/4",
  "1BC6=1BC5/4 1BC8=1BC7/4 1BCA=1BC9/4 1BCC-1BCD:1BCB/4 1BCF=1BCE/4 1BD3=1BD2/4 1BD5=1BD4/4",
  "1BD7=1BD6/4 1BD9-1BDA:1BD8/4 1BDC=1BDB/4 1BDF=1BDE/4 1BE8=1BE7/4 1BEB=1BEA/4 1BED=1BEC/4",
  "1BEF=1BEE/4 1C40-1C49=30 1C50-1C59=30 1C80=432/4 1C81=434/4 1C82=43E/4 1C83-1C84=441/4",
  "1C85=442/4 1C86=44A/4 1C87=463/4 1C88=A64B/4 1C90-1CBA=10D0/8 1CBD-1CBF=10FD/8",
  "1CEA-1CEC:1CE9/4 1CEE-1CF1:1CE9/4 1CFA=1CE9/4 1D2C=61/1D 1D2D=61/14+@118/14+65/14 1D2E=62/1D",
  "1D30-1D31=64/1D 1D32=1DD/1D 1D33-1D3A=67/1D 1D3C=6F/1D 1D3D=223/1D 1D3E=70/1D 1D3F=72/1D",
  "1D40-1D41=74/1D 1D42=77/1D 1D43=61/14 1D44-1D45=250/14 1D46=1D02/14 1D47=62/14",
  "1D48-1D49=64/14 1D4A=259/14 1D4B=25B/14 1D4C=1D08/14 1D4D=67/14 1D4E=1D09/14 1D4F=6B/14",
  "1D50=6D/14 1D51=14B/14 1D52=6F/14 1D53=254/14 1D54-1D55=1D16/14 1D56=70/14 1D57-1D58=74/14",
  "1D59=1D1D/14 1D5A=26F/14 1D5B=76/14 1D5C=1D25/14 1D5D-1D5F=3B2/14 1D60-1D61=3C6/14",
  "1D62=69/15 1D63=72/15 1D64-1D65=75/15 1D66-1D67=3B2/15 1D68=3C1/15 1D69-1D6A=3C6/15",
  "1D78=43D/14 1D79=67/4+@119/4 1D7A=74/4+@118/4+68/4 1D9B=252/14 1D9C=63/14 1D9D=255/14",
  "1D9E=64/14+@118/14 1D9F=25C/14 1DA0=66/14 1DA1=25F/14 1DA2=261/14 1DA3=265/14",
  "1DA4-1DA6=268/14 1DA7=1D7B/14 1DA8=29D/14 1DA9=26D/14 1DAA=1D85/14 1DAB=29F/14 1DAC=271/14",
  "1DAD=270/14 1DAE-1DB1=272/14 1DB2=278/14 1DB3-1DB4=282/14 1DB5=1AB/14 1DB6-1DB7=289/14",
  "1DB8=1D1C/14 1DB9-1DBA=28B/14 1DBB=7A/14 1DBC-1DBE=290/14 1DBF=3B8/14 1DCA=72/4 1DD2=A76F/4",
  "1DD3=61/4+@118/4 1DD4=61/4+@118/4+65/4 1DD5=61/4+6F/4 1DD6=61/4+76/4 1DD7=63/4+327/4",
  "1DD8=64/4+@119/4 1DD9=64/4+@118/4 1DDA=67/4 1DDB=262/4 1DDC-1DDD=6B/4 1DDE=29F/4 1DDF=1D0D/4",
  "1DE0=6E/4 1DE1=274/4 1DE2=280/4 1DE3=A75B/4 1DE4=73/4 1DE5=73/4+@119/4 1DE6=7A/4 1DE7=251/4",
  "1DE8=62/4 1DE9=A7B5/4 1DEA=259/4 1DEB=66/4 1DEC=AB38/4 1DED=6F/4+316/4 1DEE=70/4 1DEF=283/4",
  "1DF0=75/4+316/4 1DF1=77/4 1DF2=61/4+308/4 1DF3=6F/4+308/4 1DF4=75/4+308/4"
]

end Inlay.Collation
