/-!
# Variants from U+1E00

Characters that sort as others do, and behind them only between texts that are equal otherwise.
`C9=65/8+301` says that a character sorts as the base 65 in the form 8 with the mark 301; the plain
form is left out. A weight behind `@` is that of a mark which no character is alone. In a run
`first-last` the base goes up with the character, or stays where a colon stands for the equals
sign. These are the letters with several marks, and the forms for special uses.
-/

namespace Inlay.Collation

/-- The variants from U+1E00. -/
def forms : List String := [
  "1E00=61/8+325 1E01=61+325 1E02=62/8+307 1E03=62+307 1E04=62/8+323 1E05=62+323 1E06=62/8+331",
  "1E07=62+331 1E08=63/8+327+301 1E09=63+327+301 1E0A=64/8+307 1E0B=64+307 1E0C=64/8+323",
  "1E0D=64+323 1E0E=64/8+331 1E0F=64+331 1E10=64/8+327 1E11=64+327 1E12=64/8+32D 1E13=64+32D",
  "1E14=65/8+304+300 1E15=65+304+300 1E16=65/8+304+301 1E17=65+304+301 1E18=65/8+32D",
  "1E19=65+32D 1E1A=65/8+330 1E1B=65+330 1E1C=65/8+327+306 1E1D=65+327+306 1E1E=66/8+307",
  "1E1F=66+307 1E20=67/8+304 1E21=67+304 1E22=68/8+307 1E23=68+307 1E24=68/8+323 1E25=68+323",
  "1E26=68/8+308 1E27=68+308 1E28=68/8+327 1E29=68+327 1E2A=68/8+32E 1E2B=68+32E 1E2C=69/8+330",
  "1E2D=69+330 1E2E=69/8+308+301 1E2F=69+308+301 1E30=6B/8+301 1E31=6B+301 1E32=6B/8+323",
  "1E33=6B+323 1E34=6B/8+331 1E35=6B+331 1E36=6C/8+323 1E37=6C+323 1E38=6C/8+323+304",
  "1E39=6C+323+304 1E3A=6C/8+331 1E3B=6C+331 1E3C=6C/8+32D 1E3D=6C+32D 1E3E=6D/8+301",
  "1E3F=6D+301 1E40=6D/8+307 1E41=6D+307 1E42=6D/8+323 1E43=6D+323 1E44=6E/8+307 1E45=6E+307",
  "1E46=6E/8+323 1E47=6E+323 1E48=6E/8+331 1E49=6E+331 1E4A=6E/8+32D 1E4B=6E+32D",
  "1E4C=6F/8+303+301 1E4D=6F+303+301 1E4E=6F/8+303+308 1E4F=6F+303+308 1E50=6F/8+304+300",
  "1E51=6F+304+300 1E52=6F/8+304+301 1E53=6F+304+301 1E54=70/8+301 1E55=70+301 1E56=70/8+307",
  "1E57=70+307 1E58=72/8+307 1E59=72+307 1E5A=72/8+323 1E5B=72+323 1E5C=72/8+323+304",
  "1E5D=72+323+304 1E5E=72/8+331 1E5F=72+331 1E60=73/8+307 1E61=73+307 1E62=73/8+323",
  "1E63=73+323 1E64=73/8+301+307 1E65=73+301+307 1E66=73/8+30C+307 1E67=73+30C+307",
  "1E68=73/8+323+307 1E69=73+323+307 1E6A=74/8+307 1E6B=74+307 1E6C=74/8+323 1E6D=74+323",
  "1E6E=74/8+331 1E6F=74+331 1E70=74/8+32D 1E71=74+32D 1E72=75/8+324 1E73=75+324 1E74=75/8+330",
  "1E75=75+330 1E76=75/8+32D 1E77=75+32D 1E78=75/8+303+301 1E79=75+303+301 1E7A=75/8+304+308",
  "1E7B=75+304+308 1E7C=76/8+303 1E7D=76+303 1E7E=76/8+323 1E7F=76+323 1E80=77/8+300",
  "1E81=77+300 1E82=77/8+301 1E83=77+301 1E84=77/8+308 1E85=77+308 1E86=77/8+307 1E87=77+307",
  "1E88=77/8+323 1E89=77+323 1E8A=78/8+307 1E8B=78+307 1E8C=78/8+308 1E8D=78+308 1E8E=79/8+307",
  "1E8F=79+307 1E90=7A/8+302 1E91=7A+302 1E92=7A/8+323 1E93=7A+323 1E94=7A/8+331 1E95=7A+331",
  "1E96=68+331 1E97=74+308 1E98=77+30A 1E99=79+30A 1E9A=61/4+2BE/4 1E9B=73/4+@119/4+307",
  "1E9E=73/A+@118/4+73/A 1EA0=61/8+323 1EA1=61+323 1EA2=61/8+309 1EA3=61+309 1EA4=61/8+302+301",
  "1EA5=61+302+301 1EA6=61/8+302+300 1EA7=61+302+300 1EA8=61/8+302+309 1EA9=61+302+309",
  "1EAA=61/8+302+303 1EAB=61+302+303 1EAC=61/8+323+302 1EAD=61+323+302 1EAE=61/8+306+301",
  "1EAF=61+306+301 1EB0=61/8+306+300 1EB1=61+306+300 1EB2=61/8+306+309 1EB3=61+306+309",
  "1EB4=61/8+306+303 1EB5=61+306+303 1EB6=61/8+323+306 1EB7=61+323+306 1EB8=65/8+323",
  "1EB9=65+323 1EBA=65/8+309 1EBB=65+309 1EBC=65/8+303 1EBD=65+303 1EBE=65/8+302+301",
  "1EBF=65+302+301 1EC0=65/8+302+300 1EC1=65+302+300 1EC2=65/8+302+309 1EC3=65+302+309",
  "1EC4=65/8+302+303 1EC5=65+302+303 1EC6=65/8+323+302 1EC7=65+323+302 1EC8=69/8+309",
  "1EC9=69+309 1ECA=69/8+323 1ECB=69+323 1ECC=6F/8+323 1ECD=6F+323 1ECE=6F/8+309 1ECF=6F+309",
  "1ED0=6F/8+302+301 1ED1=6F+302+301 1ED2=6F/8+302+300 1ED3=6F+302+300 1ED4=6F/8+302+309",
  "1ED5=6F+302+309 1ED6=6F/8+302+303 1ED7=6F+302+303 1ED8=6F/8+323+302 1ED9=6F+323+302",
  "1EDA=6F/8+31B+301 1EDB=6F+31B+301 1EDC=6F/8+31B+300 1EDD=6F+31B+300 1EDE=6F/8+31B+309",
  "1EDF=6F+31B+309 1EE0=6F/8+31B+303 1EE1=6F+31B+303 1EE2=6F/8+31B+323 1EE3=6F+31B+323",
  "1EE4=75/8+323 1EE5=75+323 1EE6=75/8+309 1EE7=75+309 1EE8=75/8+31B+301 1EE9=75+31B+301",
  "1EEA=75/8+31B+300 1EEB=75+31B+300 1EEC=75/8+31B+309 1EED=75+31B+309 1EEE=75/8+31B+303",
  "1EEF=75+31B+303 1EF0=75/8+31B+323 1EF1=75+31B+323 1EF2=79/8+300 1EF3=79+300 1EF4=79/8+323",
  "1EF5=79+323 1EF6=79/8+309 1EF7=79+309 1EF8=79/8+303 1EF9=79+303 1EFA=6C/A+6C/A",
  "1EFB=6C/4+6C/4 1EFC=1EFD/8 1EFE=1EFF/8 1F00=3B1+313 1F01=3B1+314 1F02=3B1+313+300",
  "1F03=3B1+314+300 1F04=3B1+313+301 1F05=3B1+314+301 1F06=3B1+313+342 1F07=3B1+314+342",
  "1F08=3B1/8+313 1F09=3B1/8+314 1F0A=3B1/8+313+300 1F0B=3B1/8+314+300 1F0C=3B1/8+313+301",
  "1F0D=3B1/8+314+301 1F0E=3B1/8+313+342 1F0F=3B1/8+314+342 1F10=3B5+313 1F11=3B5+314",
  "1F12=3B5+313+300 1F13=3B5+314+300 1F14=3B5+313+301 1F15=3B5+314+301 1F18=3B5/8+313",
  "1F19=3B5/8+314 1F1A=3B5/8+313+300 1F1B=3B5/8+314+300 1F1C=3B5/8+313+301 1F1D=3B5/8+314+301",
  "1F20=3B7+313 1F21=3B7+314 1F22=3B7+313+300 1F23=3B7+314+300 1F24=3B7+313+301",
  "1F25=3B7+314+301 1F26=3B7+313+342 1F27=3B7+314+342 1F28=3B7/8+313 1F29=3B7/8+314",
  "1F2A=3B7/8+313+300 1F2B=3B7/8+314+300 1F2C=3B7/8+313+301 1F2D=3B7/8+314+301",
  "1F2E=3B7/8+313+342 1F2F=3B7/8+314+342 1F30=3B9+313 1F31=3B9+314 1F32=3B9+313+300",
  "1F33=3B9+314+300 1F34=3B9+313+301 1F35=3B9+314+301 1F36=3B9+313+342 1F37=3B9+314+342",
  "1F38=3B9/8+313 1F39=3B9/8+314 1F3A=3B9/8+313+300 1F3B=3B9/8+314+300 1F3C=3B9/8+313+301",
  "1F3D=3B9/8+314+301 1F3E=3B9/8+313+342 1F3F=3B9/8+314+342 1F40=3BF+313 1F41=3BF+314",
  "1F42=3BF+313+300 1F43=3BF+314+300 1F44=3BF+313+301 1F45=3BF+314+301 1F48=3BF/8+313",
  "1F49=3BF/8+314 1F4A=3BF/8+313+300 1F4B=3BF/8+314+300 1F4C=3BF/8+313+301 1F4D=3BF/8+314+301",
  "1F50=3C5+313 1F51=3C5+314 1F52=3C5+313+300 1F53=3C5+314+300 1F54=3C5+313+301",
  "1F55=3C5+314+301 1F56=3C5+313+342 1F57=3C5+314+342 1F59=3C5/8+314 1F5B=3C5/8+314+300",
  "1F5D=3C5/8+314+301 1F5F=3C5/8+314+342 1F60=3C9+313 1F61=3C9+314 1F62=3C9+313+300",
  "1F63=3C9+314+300 1F64=3C9+313+301 1F65=3C9+314+301 1F66=3C9+313+342 1F67=3C9+314+342",
  "1F68=3C9/8+313 1F69=3C9/8+314 1F6A=3C9/8+313+300 1F6B=3C9/8+314+300 1F6C=3C9/8+313+301",
  "1F6D=3C9/8+314+301 1F6E=3C9/8+313+342 1F6F=3C9/8+314+342 1F70=3B1+300 1F71=3B1+301",
  "1F72=3B5+300 1F73=3B5+301 1F74=3B7+300 1F75=3B7+301 1F76=3B9+300 1F77=3B9+301 1F78=3BF+300",
  "1F79=3BF+301 1F7A=3C5+300 1F7B=3C5+301 1F7C=3C9+300 1F7D=3C9+301 1F80=3B1+313+345",
  "1F81=3B1+314+345 1F82=3B1+313+300+345 1F83=3B1+314+300+345 1F84=3B1+313+301+345",
  "1F85=3B1+314+301+345 1F86=3B1+313+342+345 1F87=3B1+314+342+345 1F88=3B1/8+313+345",
  "1F89=3B1/8+314+345 1F8A=3B1/8+313+300+345 1F8B=3B1/8+314+300+345 1F8C=3B1/8+313+301+345",
  "1F8D=3B1/8+314+301+345 1F8E=3B1/8+313+342+345 1F8F=3B1/8+314+342+345 1F90=3B7+313+345",
  "1F91=3B7+314+345 1F92=3B7+313+300+345 1F93=3B7+314+300+345 1F94=3B7+313+301+345",
  "1F95=3B7+314+301+345 1F96=3B7+313+342+345 1F97=3B7+314+342+345 1F98=3B7/8+313+345",
  "1F99=3B7/8+314+345 1F9A=3B7/8+313+300+345 1F9B=3B7/8+314+300+345 1F9C=3B7/8+313+301+345",
  "1F9D=3B7/8+314+301+345 1F9E=3B7/8+313+342+345 1F9F=3B7/8+314+342+345 1FA0=3C9+313+345",
  "1FA1=3C9+314+345 1FA2=3C9+313+300+345 1FA3=3C9+314+300+345 1FA4=3C9+313+301+345",
  "1FA5=3C9+314+301+345 1FA6=3C9+313+342+345 1FA7=3C9+314+342+345 1FA8=3C9/8+313+345",
  "1FA9=3C9/8+314+345 1FAA=3C9/8+313+300+345 1FAB=3C9/8+314+300+345 1FAC=3C9/8+313+301+345",
  "1FAD=3C9/8+314+301+345 1FAE=3C9/8+313+342+345 1FAF=3C9/8+314+342+345 1FB0=3B1+306",
  "1FB1=3B1+304 1FB2=3B1+300+345 1FB3=3B1+345 1FB4=3B1+301+345 1FB6=3B1+342 1FB7=3B1+342+345",
  "1FB8=3B1/8+306 1FB9=3B1/8+304 1FBA=3B1/8+300 1FBB=3B1/8+301 1FBC=3B1/8+345 1FBE=3B9",
  "1FBF=1FBD 1FC1=A8+342 1FC2=3B7+300+345 1FC3=3B7+345 1FC4=3B7+301+345 1FC6=3B7+342",
  "1FC7=3B7+342+345 1FC8=3B5/8+300 1FC9=3B5/8+301 1FCA=3B7/8+300 1FCB=3B7/8+301 1FCC=3B7/8+345",
  "1FCD=1FBD+300 1FCE=1FBD+301 1FCF=1FBD+342 1FD0=3B9+306 1FD1=3B9+304 1FD2=3B9+308+300",
  "1FD3=3B9+308+301 1FD6=3B9+342 1FD7=3B9+308+342 1FD8=3B9/8+306 1FD9=3B9/8+304 1FDA=3B9/8+300",
  "1FDB=3B9/8+301 1FDD=1FFE+300 1FDE=1FFE+301 1FDF=1FFE+342 1FE0=3C5+306 1FE1=3C5+304",
  "1FE2=3C5+308+300 1FE3=3C5+308+301 1FE4=3C1+313 1FE5=3C1+314 1FE6=3C5+342 1FE7=3C5+308+342",
  "1FE8=3C5/8+306 1FE9=3C5/8+304 1FEA=3C5/8+300 1FEB=3C5/8+301 1FEC=3C1/8+314 1FED=A8+300",
  "1FEE=A8+301 1FEF=60 1FF2=3C9+300+345 1FF3=3C9+345 1FF4=3C9+301+345 1FF6=3C9+342",
  "1FF7=3C9+342+345 1FF8=3BF/8+300 1FF9=3BF/8+301 1FFA=3C9/8+300 1FFB=3C9/8+301 1FFC=3C9/8+345",
  "1FFD=B4 2000-2006:20/4 2007=20/1B 2008-200A:20/4 2011=2010/1B 2024=2E/4 2025=2E/4+2E/4",
  "2026=2E/4+2E/4+2E/4 202F=20/1B 2033=2032/4+2032/4 2034=2032/4+2032/4+2032/4",
  "2036=2035/4+2035/4 2037=2035/4+2035/4+2035/4 203C=21/4+21/4 2047=3F/4+3F/4 2048=3F/4+21/4",
  "2049=21/4+3F/4 2057=2032/4+2032/4+2032/4+2032/4 205F=20/4 2070=30/14 2071=69/14",
  "2074-2079=34/14 207A=2B/14 207B=2212/14 207C=3D/14 207D-207E=28/14 207F=6E/14",
  "2080-2089=30/15 208A=2B/15 208B=2212/15 208C=3D/15 208D-208E=28/15 2090=61/15 2091=65/15",
  "2092=6F/15 2093=78/15 2094=259/15 2095=68/15 2096-2099=6B/15 209A=70/15 209B-209C=73/15",
  "20A8=72/A+73/4 2100=61/4+2F/4+63/4 2101=61/4+2F/4+73/4 2102=63/B 2103=B0/4+63/A",
  "2105=63/4+2F/4+6F/4 2106=63/4+2F/4+75/4 2107=25B/A 2109=B0/4+66/A 210A=67/5 210B-210D:68/B",
  "210E=68/5 210F=68+335 2110-2111:69/B 2112=6C/B 2113=6C/5 2115=6E/B 2116=6E/A+6F/4",
  "2119-211B=70/B 211C-211D:72/B 2120=73/14+6D/14 2121=74/A+65/A+6C/A 2122=74/14+6D/14",
  "2124=7A/B 2126=3C9/8 2128=7A/B 212A=6B/8 212B=61/8+30A 212C-212D=62/B 212F=65/5",
  "2130-2131=65/B 2132=214E/8 2133=6D/B 2134=6F/5 2135-2138=5D0/4 2139=69/5 213B=66/A+61/A+78/A",
  "213C=3C0/5 213D=3B3/5 213E=3B3/B 213F=3C0/B 2140=2211/5 2145=64/B 2146-2147=64/5",
  "2148-2149=69/5 214D=61/A+2F/4+73/A 2150=31/1E+2044/1E+37/1E 2151=31/1E+2044/1E+39/1E",
  "2152=31/1E+2044/1E+31/1E+30/1E 2153=31/1E+2044/1E+33/1E 2154=32/1E+2044/1E+33/1E",
  "2155=31/1E+2044/1E+35/1E 2156=32/1E+2044/1E+35/1E 2157=33/1E+2044/1E+35/1E",
  "2158=34/1E+2044/1E+35/1E 2159=31/1E+2044/1E+36/1E 215A=35/1E+2044/1E+36/1E",
  "215B=31/1E+2044/1E+38/1E 215C=33/1E+2044/1E+38/1E 215D=35/1E+2044/1E+38/1E",
  "215E=37/1E+2044/1E+38/1E 215F=31/1E+2044/1E 2160=69/A 2161=69/A+69/A 2162=69/A+69/A+69/A",
  "2163=69/A+76/A 2164=76/A 2165=76/A+69/A 2166=76/A+69/A+69/A 2167=76/A+69/A+69/A+69/A",
  "2168=69/A+78/A 2169=78/A 216A=78/A+69/A 216B=78/A+69/A+69/A 216C=6C/A 216D-216E=63/A",
  "216F=6D/A 2170=69/4 2171=69/4+69/4 2172=69/4+69/4+69/4 2173=69/4+76/4 2174=76/4",
  "2175=76/4+69/4 2176=76/4+69/4+69/4 2177=76/4+69/4+69/4+69/4 2178=69/4+78/4 2179=78/4",
  "217A=78/4+69/4 217B=78/4+69/4+69/4 217C=6C/4 217D-217E=63/4 217F=6D/4 2183=2184/8 2185=36",
  "2189=30/1E+2044/1E+33/1E 219A=2190+338 219B=2192+338 21AE=2194+338 21CD=21D0+338",
  "21CE=21D4+338 21CF=21D2+338 2204=2203+338 2209=2208+338 220C=220B+338 2224=2223+338",
  "2226=2225+338 222C=222B/4+222B/4 222D=222B/4+222B/4+222B/4 222F=222E/4+222E/4",
  "2230=222E/4+222E/4+222E/4 2241=223C+338 2244=2243+338 2247=2245+338 2249=2248+338",
  "2260=3D+338 2262=2261+338 226D=224D+338 226E=3C+338 226F=3E+338 2270=2264+338 2271=2265+338",
  "2274=2272+338 2275=2273+338 2278=2276+338 2279=2277+338 2280=227A+338 2281=227B+338",
  "2284=2282+338 2285=2283+338 2288=2286+338 2289=2287+338 22AC=22A2+338 22AD=22A8+338",
  "22AE=22A9+338 22AF=22AB+338 22E0=227C+338 22E1=227D+338 22E2=2291+338 22E3=2292+338",
  "22EA=22B2+338 22EB=22B3+338 22EC=22B4+338 22ED=22B5+338 2460-2468=31/6 2469=31/6+30/6",
  "246A=31/6+31/6 246B=31/6+32/6 246C=31/6+33/6 246D=31/6+34/6 246E=31/6+35/6 246F=31/6+36/6",
  "2470=31/6+37/6 2471=31/6+38/6 2472=31/6+39/6 2473=32/6+30/6 2474=28/4+31/4+29/4",
  "2475=28/4+32/4+29/4 2476=28/4+33/4+29/4 2477=28/4+34/4+29/4 2478=28/4+35/4+29/4",
  "2479=28/4+36/4+29/4 247A=28/4+37/4+29/4 247B=28/4+38/4+29/4 247C=28/4+39/4+29/4",
  "247D=28/4+31/4+30/4+29/4 247E=28/4+31/4+31/4+29/4 247F=28/4+31/4+32/4+29/4",
  "2480=28/4+31/4+33/4+29/4 2481=28/4+31/4+34/4+29/4 2482=28/4+31/4+35/4+29/4",
  "2483=28/4+31/4+36/4+29/4 2484=28/4+31/4+37/4+29/4 2485=28/4+31/4+38/4+29/4",
  "2486=28/4+31/4+39/4+29/4 2487=28/4+32/4+30/4+29/4 2488=31/4+2E/4 2489=32/4+2E/4",
  "248A=33/4+2E/4 248B=34/4+2E/4 248C=35/4+2E/4 248D=36/4+2E/4 248E=37/4+2E/4 248F=38/4+2E/4",
  "2490=39/4+2E/4 2491=31/4+30/4+2E/4 2492=31/4+31/4+2E/4 2493=31/4+32/4+2E/4",
  "2494=31/4+33/4+2E/4 2495=31/4+34/4+2E/4 2496=31/4+35/4+2E/4 2497=31/4+36/4+2E/4",
  "2498=31/4+37/4+2E/4 2499=31/4+38/4+2E/4 249A=31/4+39/4+2E/4 249B=32/4+30/4+2E/4",
  "249C=28/4+61/4+29/4 249D=28/4+62/4+29/4 249E=28/4+63/4+29/4 249F=28/4+64/4+29/4",
  "24A0=28/4+65/4+29/4 24A1=28/4+66/4+29/4 24A2=28/4+67/4+29/4 24A3=28/4+68/4+29/4",
  "24A4=28/4+69/4+29/4 24A5=28/4+6A/4+29/4 24A6=28/4+6B/4+29/4 24A7=28/4+6C/4+29/4",
  "24A8=28/4+6D/4+29/4 24A9=28/4+6E/4+29/4 24AA=28/4+6F/4+29/4 24AB=28/4+70/4+29/4",
  "24AC=28/4+71/4+29/4 24AD=28/4+72/4+29/4 24AE=28/4+73/4+29/4 24AF=28/4+74/4+29/4",
  "24B0=28/4+75/4+29/4 24B1=28/4+76/4+29/4 24B2=28/4+77/4+29/4 24B3=28/4+78/4+29/4",
  "24B4=28/4+79/4+29/4 24B5=28/4+7A/4+29/4 24B6-24CF=61/C 24D0-24E9=61/6 24EA=30/6",
  "24EB=31/6+31/6 24EC=31/6+32/6 24ED=31/6+33/6 24EE=31/6+34/6 24EF=31/6+35/6 24F0=31/6+36/6",
  "24F1=31/6+37/6 24F2=31/6+38/6 24F3=31/6+39/6 24F4=32/6+30/6 24F5-24FD=31/6 24FE=31/6+30/6",
  "24FF=30/6 2776-277E=31/6 277F=31/6+30/6 2780-2788=31/6 2789=31/6+30/6 278A-2792=31/6",
  "2793=31/6+30/6 2A0C=222B/4+222B/4+222B/4+222B/4 2A74=3A/4+3A/4+3D/4 2A75=3D/4+3D/4",
  "2A76=3D/4+3D/4+3D/4 2ADC=2ADD+338 2C00-2C2E=2C30/8 2C60=2C61/8 2C62=26B/8 2C63=1D7D/8",
  "2C64=27D/8 2C67=2C68/8 2C69=2C6A/8 2C6B=2C6C/8 2C6D=251/8 2C6E=271/8 2C6F=250/8 2C70=252/8",
  "2C72=2C73/8 2C75=2C76/8 2C7C=6A/15 2C7D=76/1D 2C7E-2C7F=23F/8 2C80=2C81/8 2C82=2C83/8",
  "2C84=2C85/8 2C86=2C87/8 2C88=2C89/8 2C8A=2C8B/8 2C8C=2C8D/8 2C8E=2C8F/8 2C90=2C91/8",
  "2C92=2C93/8 2C94=2C95/8 2C96=2C97/8 2C98=2C99/8 2C9A=2C9B/8 2C9C=2C9D/8 2C9E=2C9F/8",
  "2CA0=2CA1/8 2CA2=2CA3/8 2CA4=2CA5/8 2CA6=2CA7/8 2CA8=2CA9/8 2CAA=2CAB/8 2CAC=2CAD/8",
  "2CAE=2CAF/8 2CB0=2CB1/8 2CB2=2CB3/8 2CB4=2CB5/8 2CB6=2CB7/8 2CB8=2CB9/8 2CBA=2CBB/8",
  "2CBC=2CBD/8 2CBE=2CBF/8 2CC0=2CC1/8 2CC2=2CC3/8 2CC4=2CC5/8 2CC6=2CC7/8 2CC8=2CC9/8",
  "2CCA=2CCB/8 2CCC=2CCD/8 2CCE=2CCF/8 2CD0=2CD1/8 2CD2=2CD3/8 2CD4=2CD5/8 2CD6=2CD7/8",
  "2CD8=2CD9/8 2CDA=2CDB/8 2CDC=2CDD/8 2CDE=2CDF/8 2CE0=2CE1/8 2CE2=2CE3/8",
  "2CE4=2C95/4+2C81/4+2C93/4 2CEB=2CEC/8 2CED=2CEE/8 2CF2=2CF3/8 2DE0-2DE3=431/4",
  "2DE4-2DE5=436/4 2DE6-2DEE=43A/4 2DEF-2DF3=445/4 2DF4=473/4 2DF5=441/4+442/4 2DF6=430/4",
  "2DF7=435/4 2DF8=A649/4 2DF9=A64B/4 2DFA=463/4 2DFB=44E/4 2DFC=A657/4 2DFD=467/4 2DFE=46B/4",
  "2DFF=46D/4 3000=20/3 3006=3057/4+3081/4 3007=30 3008-3009=2329 3021-3029=31 3032=3031+3099",
  "3034=3033+3099 3036=3012/4 3038=5341/4 3039-303A=5344/4 303C=307E/4+3059/4 3042=3041/E",
  "3044=3043/E 3046=3045/E 3048=3047/E 304A=3049/E 304B=3095/E 304C=3095/E+3099 304E=304D+3099",
  "3050=304F+3099 3051=3096/E 3052=3096/E+3099 3054=3053+3099 3056=3055+3099 3058=3057+3099",
  "305A=3059+3099 305C=305B+3099 305E=305D+3099 3060=305F+3099 3062=3061+3099 3064=3063/E",
  "3065=3063/E+3099 3067=3066+3099 3069=3068+3099 3070=306F+3099 3071=306F+309A 3073=3072+3099",
  "3074=3072+309A 3076=3075+3099 3077=3075+309A 3079=3078+3099 307A=3078+309A 307C=307B+3099",
  "307D=307B+309A 3084=3083/E 3086=3085/E 3088=3087/E 308F=308E/E 3090-3092=1B150/E",
  "3094=3045/E+3099 309E=309D+3099 309F=3087/16+308A/16 30A1=3041/F 30A2=3041/11 30A3=3043/F",
  "30A4=3043/11 30A5=3045/F 30A6=3045/11 30A7=3047/F 30A8=3047/11 30A9=3049/F 30AA=3049/11",
  "30AB=3095/11 30AC=3095/11+3099 30AD=304D/11 30AE=304D/11+3099 30AF=304F/11 30B0=304F/11+3099",
  "30B1=3096/11 30B2=3096/11+3099 30B3=3053/11 30B4=3053/11+3099 30B5=3055/11 30B6=3055/11+3099",
  "30B7=3057/11 30B8=3057/11+3099 30B9=3059/11 30BA=3059/11+3099 30BB=305B/11 30BC=305B/11+3099",
  "30BD=305D/11 30BE=305D/11+3099 30BF=305F/11 30C0=305F/11+3099 30C1=3061/11 30C2=3061/11+3099",
  "30C3=3063/F 30C4=3063/11 30C5=3063/11+3099 30C6=3066/11 30C7=3066/11+3099 30C8=3068/11",
  "30C9=3068/11+3099 30CA-30CF=306A/11 30D0=306F/11+3099 30D1=306F/11+309A 30D2=3072/11",
  "30D3=3072/11+3099 30D4=3072/11+309A 30D5=3075/11 30D6=3075/11+3099 30D7=3075/11+309A",
  "30D8=3078/11 30D9=3078/11+3099 30DA=3078/11+309A 30DB=307B/11 30DC=307B/11+3099",
  "30DD=307B/11+309A 30DE-30E2=307E/11 30E3=3083/F 30E4=3083/11 30E5=3085/F 30E6=3085/11",
  "30E7=3087/F 30E8=3087/11 30E9-30ED=3089/11 30EE=308E/F 30EF=308E/11 30F0-30F2=1B150/11",
  "30F3=3093/11 30F4=3045/11+3099 30F5-30F6=3095/F 30F7=308E/11+3099 30F8=1B150/11+3099",
  "30F9=1B151/11+3099 30FA=1B152/11+3099 30FE=30FD+3099 30FF=3053/16+3068/16 312E=311C/4",
  "3131-3132=1100/4 3133=11AA/4 3134=1102/4 3135-3136=11AC/4 3137-3139=1103/4 313A-313F=11B0/4",
  "3140=111A/4 3141-3143=1106/4 3144=1121/4 3145-314E=1109/4 314F-3163=1161/4 3164=1160/4",
  "3165-3166=1114/4 3167-3168=11C7/4 3169=11CC/4 316A=11CE/4 316B=11D3/4 316C=11D7/4",
  "316D=11D9/4 316E=111C/4 316F=11DD/4 3170=11DF/4 3171-3172=111D/4 3173=1120/4",
  "3174-3175=1122/4 3176=1127/4 3177=1129/4 3178-317C=112B/4 317D=1132/4 317E=1136/4",
  "317F=1140/4 3180=1147/4 3181=114C/4 3182-3183=11F1/4 3184-3186=1157/4 3187-3188=1184/4",
  "3189=1188/4 318A-318B=1191/4 318C=1194/4 318D=119E/4 318E=11A1/4 3192=4E00/14 3193=4E8C/14",
  "3194=4E09/14 3195=56DB/14 3196=4E0A/14 3197=4E2D/14 3198=4E0B/14 3199=7532/14 319A=4E59/14",
  "319B=4E19/14 319C=4E01/14 319D=5929/14 319E=5730/14 319F=4EBA/14 31A0=3105/4+@119/4",
  "31A1=3117/4+@119/4 31A2=3110/4+@119/4 31A3=310D/4+@119/4 31A5=31A4/4+@119/4",
  "31A7=311B/4+@119/4 31A8=3128/4+@11A/4 31A9=311A/4+@119/4 31AA=3127/4+@119/4",
  "31AB=3128/4+@119/4 31AE=311E/4+@119/4 31AF=3120/4+@119/4 31B3=3127/16+@119/16 31B4=3106/19",
  "31B5=310A/19 31B6-31B7=310E/19 31BB=310D/19 31F0=304F/F 31F1=3057/F 31F2=3059/F 31F3=3068/F",
  "31F4=306C/F 31F5=306F/F 31F6=3072/F 31F7=3075/F 31F8=3078/F 31F9=307B/F 31FA=3080/F",
  "31FB-31FF=3089/F 3200=28/4+1100/4+29/4 3201=28/4+1102/4+29/4 3202=28/4+1103/4+29/4",
  "3203=28/4+1105/4+29/4 3204=28/4+1106/4+29/4 3205=28/4+1107/4+29/4 3206=28/4+1109/4+29/4",
  "3207=28/4+110B/4+29/4 3208=28/4+110C/4+29/4 3209=28/4+110E/4+29/4 320A=28/4+110F/4+29/4",
  "320B=28/4+1110/4+29/4 320C=28/4+1111/4+29/4 320D=28/4+1112/4+29/4",
  "320E=28/4+1100/4+1161/4+29/4 320F=28/4+1102/4+1161/4+29/4 3210=28/4+1103/4+1161/4+29/4",
  "3211=28/4+1105/4+1161/4+29/4 3212=28/4+1106/4+1161/4+29/4 3213=28/4+1107/4+1161/4+29/4",
  "3214=28/4+1109/4+1161/4+29/4 3215=28/4+110B/4+1161/4+29/4 3216=28/4+110C/4+1161/4+29/4",
  "3217=28/4+110E/4+1161/4+29/4 3218=28/4+110F/4+1161/4+29/4 3219=28/4+1110/4+1161/4+29/4",
  "321A=28/4+1111/4+1161/4+29/4 321B=28/4+1112/4+1161/4+29/4 321C=28/4+110C/4+116E/4+29/4",
  "321D=28/4+110B/4+1169/4+110C/4+1165/4+11AB/4+29/4 321E=28/4+110B/4+1169/4+1112/4+116E/4+29/4",
  "3220=28/4+4E00/4+29/4 3221=28/4+4E8C/4+29/4 3222=28/4+4E09/4+29/4 3223=28/4+56DB/4+29/4",
  "3224=28/4+4E94/4+29/4 3225=28/4+516D/4+29/4 3226=28/4+4E03/4+29/4 3227=28/4+516B/4+29/4",
  "3228=28/4+4E5D/4+29/4 3229=28/4+5341/4+29/4 322A=28/4+6708/4+29/4 322B=28/4+706B/4+29/4",
  "322C=28/4+6C34/4+29/4 322D=28/4+6728/4+29/4 322E=28/4+91D1/4+29/4 322F=28/4+571F/4+29/4",
  "3230=28/4+65E5/4+29/4 3231=28/4+682A/4+29/4 3232=28/4+6709/4+29/4 3233=28/4+793E/4+29/4",
  "3234=28/4+540D/4+29/4 3235=28/4+7279/4+29/4 3236=28/4+8CA1/4+29/4 3237=28/4+795D/4+29/4",
  "3238=28/4+52B4/4+29/4 3239=28/4+4EE3/4+29/4 323A=28/4+547C/4+29/4 323B=28/4+5B66/4+29/4",
  "323C=28/4+76E3/4+29/4 323D=28/4+4F01/4+29/4 323E=28/4+8CC7/4+29/4 323F=28/4+5354/4+29/4",
  "3240=28/4+796D/4+29/4 3241=28/4+4F11/4+29/4 3242=28/4+81EA/4+29/4 3243=28/4+81F3/4+29/4",
  "3244=554F/6 3245=5E7C/6 3246=6587/6 3247=7B8F/6 3248=31/6+30/6 3249=32/6+30/6 324A=33/6+30/6",
  "324B=34/6+30/6 324C=35/6+30/6 324D=36/6+30/6 324E=37/6+30/6 324F=38/6+30/6",
  "3250=70/1D+74/1D+65/1D 3251=32/6+31/6 3252=32/6+32/6 3253=32/6+33/6 3254=32/6+34/6",
  "3255=32/6+35/6 3256=32/6+36/6 3257=32/6+37/6 3258=32/6+38/6 3259=32/6+39/6 325A=33/6+30/6",
  "325B=33/6+31/6 325C=33/6+32/6 325D=33/6+33/6 325E=33/6+34/6 325F=33/6+35/6 3260=1100/6",
  "3261-3262=1102/6 3263-3265=1105/6 3266=1109/6 3267-3268=110B/6 3269-326D=110E/6",
  "326E=1100/6+1161/6 326F=1102/6+1161/6 3270=1103/6+1161/6 3271=1105/6+1161/6",
  "3272=1106/6+1161/6 3273=1107/6+1161/6 3274=1109/6+1161/6 3275=110B/6+1161/6",
  "3276=110C/6+1161/6 3277=110E/6+1161/6 3278=110F/6+1161/6 3279=1110/6+1161/6",
  "327A=1111/6+1161/6 327B=1112/6+1161/6 327C=110E/6+1161/6+11B7/6+1100/6+1169/6",
  "327D=110C/6+116E/6+110B/6+1174/6 327E=110B/6+116E/6 3280=4E00/6 3281=4E8C/6 3282=4E09/6",
  "3283=56DB/6 3284=4E94/6 3285=516D/6 3286=4E03/6 3287=516B/6 3288=4E5D/6 3289=5341/6",
  "328A=6708/6 328B=706B/6 328C=6C34/6 328D=6728/6 328E=91D1/6 328F=571F/6 3290=65E5/6",
  "3291=682A/6 3292=6709/6 3293=793E/6 3294=540D/6 3295=7279/6 3296=8CA1/6 3297=795D/6",
  "3298=52B4/6 3299=79D8/6 329A=7537/6 329B=5973/6 329C=9069/6 329D=512A/6 329E=5370/6",
  "329F=6CE8/6 32A0=9805/6 32A1=4F11/6 32A2=5199/6 32A3=6B63/6 32A4=4E0A/6 32A5=4E2D/6",
  "32A6=4E0B/6 32A7=5DE6/6 32A8=53F3/6 32A9=533B/6 32AA=5B97/6 32AB=5B66/6 32AC=76E3/6",
  "32AD=4F01/6 32AE=8CC7/6 32AF=5354/6 32B0=591C/6 32B1=33/6+36/6 32B2=33/6+37/6 32B3=33/6+38/6",
  "32B4=33/6+39/6 32B5=34/6+30/6 32B6=34/6+31/6 32B7=34/6+32/6 32B8=34/6+33/6 32B9=34/6+34/6",
  "32BA=34/6+35/6 32BB=34/6+36/6 32BC=34/6+37/6 32BD=34/6+38/6 32BE=34/6+39/6 32BF=35/6+30/6",
  "32C0=31/4+6708/4 32C1=32/4+6708/4 32C2=33/4+6708/4 32C3=34/4+6708/4 32C4=35/4+6708/4",
  "32C5=36/4+6708/4 32C6=37/4+6708/4 32C7=38/4+6708/4 32C8=39/4+6708/4 32C9=31/4+30/4+6708/4",
  "32CA=31/4+31/4+6708/4 32CB=31/4+32/4+6708/4 32CC=68/1D+67/1C 32CD=65/1C+72/1C+67/1C",
  "32CE=65/1C+76/1D 32CF=6C/1D+74/1D+64/1D 32D0=3041/13 32D1=3043/13 32D2=3045/13 32D3=3047/13",
  "32D4=3049/13 32D5=3095/13 32D6=304D/13 32D7=304F/13 32D8=3096/13 32D9=3053/13 32DA=3055/13",
  "32DB=3057/13 32DC=3059/13 32DD=305B/13 32DE=305D/13 32DF=305F/13 32E0=3061/13 32E1=3063/13",
  "32E2=3066/13 32E3=3068/13 32E4-32E9=306A/13 32EA=3072/13 32EB=3075/13 32EC=3078/13",
  "32ED=307B/13 32EE-32F3=307E/13 32F4=3085/13 32F5=3087/13 32F6-32FB=3089/13",
  "32FC-32FE=1B150/13 32FF=4EE4/1C+548C/1C A610=A558/4 A611=A56A/4 A612=A587/4",
  "A613=A50C/4+A60B/4 A614=A51E/4+A60B/4 A615=A533/4+A60B/4 A616=A547/4+A60C/4",
  "A617=A552/4+A60B/4 A618=A558/4+A60C/4 A619=A55A/4+A60C/4 A61A=A560/4+A60B/4",
  "A61B=A585/4+A60B/4 A61C=A5B4/4+A60B/4 A61D=A5CB/4+A60B/4 A61E=A5D1/4+A60C/4",
  "A61F=A5D8/4+A60B/4 A620-A629=30 A62A=A56E/4 A62B=A5D1/4 A640=A641/8 A642=A643/8 A644=A645/8",
  "A646=A647/8 A648=A649/8 A64A=A64B/8 A64C=A64D/8 A64E=A64F/8 A650=A651/8 A652=A653/8",
  "A654=A655/8 A656=A657/8 A658=A659/8 A65A=A65B/8 A65C=A65D/8 A65E=A65F/8 A660=A661/8",
  "A662=A663/8 A664=A665/8 A666=A667/8 A668=43E/A A669=43E/4 A66A=43E/A A66B=43E/4 A66C=43E/A",
  "A66D-A66E:43E/4 A674=454/4 A675=438/4 A676=456/4+308/4 A677=443/4 A678-A67A=44A/4 A67B=461/4",
  "A680=A681/8 A682=A683/8 A684=A685/8 A686=A687/8 A688=A689/8 A68A=A68B/8 A68C=A68D/8",
  "A68E=A68F/8 A690=A691/8 A692=A693/8 A694=A695/8 A696=A697/8 A698=43E/A A699=43E/4 A69A=43E/A",
  "A69B=43E/4 A69C=44A/14 A69D=44C/14 A69E=444/4 A69F=465/4 A722=A723/8 A724=A725/8 A726=A727/8",
  "A728=74/A+7A/4 A729=74/4+7A/4 A72A=A72B/8 A72C=A72D/8 A72E=A72F/8 A732=61/A+61/A",
  "A733=61/4+61/4 A734=61/A+6F/A A735=61/4+6F/4 A736=61/A+75/A A737=61/4+75/4 A738=61/A+76/A",
  "A739=61/4+76/4 A73A=61/A+@118/4+76/A A73B=61/4+@118/4+76/4 A73C=61/A+79/A A73D=61/4+79/4",
  "A73E=A73F/8 A740=A741/8 A742=A743/8 A744=A745/8 A746=A747/8 A748=A749/8 A74A=A74B/8",
  "A74C=A74D/8 A74E=6F/A+6F/A A74F=6F/4+6F/4 A750=A751/8 A752=A753/8 A754=A755/8 A756=A757/8",
  "A758=A759/8 A75A=A75B/8 A75C=A75D/8 A75E=A75F/8 A760=76/A+79/A A761=76/4+79/4 A762=A763/8",
  "A764=A765/8 A766=A767/8 A768=A769/8 A76A=A76B/8 A76C=A76D/8 A76E=A76F/8 A770=A76F/14",
  "A779=64/A+@119/4 A77A=64/4+@119/4 A77B=66/A+@119/4 A77C=66/4+@119/4 A77D=67/A+@119/4",
  "A77E=A77F/8 A780=A781/8 A782=72/A+@119/4 A783=72/4+@119/4 A784=73/A+@119/4 A785=73/4+@119/4",
  "A786=74/A+@119/4 A787=74/4+@119/4 A78B=A78C/8 A78D=265/8 A790=A791/8 A792=A793/8 A796=A797/8",
  "A798=A799/8 A79A=61/A+308/4 A79B=61/4+308/4 A79C=6F/A+308/4 A79D=6F/4+308/4 A79E=75/A+308/4",
  "A79F=75/4+308/4 A7A0=67/A+336/4 A7A1=67/4+336/4 A7A2=6B/A+336/4 A7A3=6B/4+336/4",
  "A7A4=6E/A+336/4 A7A5=6E/4+336/4 A7A6=72/A+336/4 A7A7=72/4+336/4 A7A8=73/A+336/4",
  "A7A9=73/4+336/4 A7AA=266/8 A7AB=25C/8 A7AC=261/8 A7AD=26C/8 A7AE=26A/8 A7B0=29E/8 A7B1=287/8",
  "A7B2=29D/8 A7B3=AB53/8 A7B4=A7B5/8 A7B6=A7B7/8 A7B8=A7B9/8 A7BA=A7BB/8 A7BC=A7BD/8",
  "A7BE=A7BF/8 A7C2=A7C3/8 A7C4=A794/8 A7C5=282/8 A7C6=1D8E/8 A7C7=A7C8/8 A7C9=A7CA/8",
  "A7F5=A7F6/8 A7F8=68/14+335/14 A7F9=6F/14+@118/14+65/14 A8D0-A8D9=30 A8F3-A8F7:A8F2/4",
  "A900-A909=30 A9AC=A9AB/4 A9B5=A9B4/4 A9D0-A9D9=30 A9F0-A9F9=30 AA50-AA59=30 AB5C=A727/14",
  "AB5D=AB37/14 AB5E=26B/14 AB5F=AB52/14 AB66=64/4+290/4 AB67=74/4+282/4 AB69=28D/14",
  "ABF0-ABF9=30 FB00=66/4+66/4 FB01=66/4+69/4 FB02=66/4+6C/4 FB03=66/4+66/4+69/4",
  "FB04=66/4+66/4+6C/4 FB05=73/4+@119/4+74/4 FB06=73/4+74/4 FB13=574/4+576/4 FB14=574/4+565/4",
  "FB15=574/4+56B/4 FB16=57E/4+576/4 FB17=574/4+56D/4 FB1D=5D9+5B4 FB1F=5D9/4+5D9/4+5B7",
  "FB20=5E2/5 FB21=5D0/5 FB22-FB23=5D3/5 FB24-FB25=5DB/5 FB26=5DE/5 FB27=5E8/5 FB28=5EA/5",
  "FB29=2B/5 FB2A=5E9+5C1 FB2B=5E9+5C2 FB2C=5E9+5BC+5C1 FB2D=5E9+5BC+5C2 FB2E=5D0+5B7",
  "FB2F=5D0+5B8 FB30=5D0+5BC FB31=5D1+5BC FB32=5D2+5BC FB33=5D3+5BC FB34=5D4+5BC FB35=5D5+5BC",
  "FB36=5D6+5BC FB38=5D8+5BC FB39=5D9+5BC FB3A=5DB/19+5BC FB3B=5DB+5BC FB3C=5DC+5BC",
  "FB3E=5DE+5BC FB40=5E0+5BC FB41=5E1+5BC FB43=5E4/19+5BC FB44=5E4+5BC FB46=5E6+5BC",
  "FB47=5E7+5BC FB48=5E8+5BC FB49=5E9+5BC FB4A=5EA+5BC FB4B=5D5+5B9 FB4C=5D1+5BF FB4D=5DB+5BF",
  "FB4E=5E4+5BF FB4F=5D0/4+5DC/4 FE10=2C/16 FE11-FE12=3001/16 FE13-FE14=3A/16 FE15=21/16",
  "FE16=3F/16 FE17-FE18=3016/16 FE19=2E/16+2E/16+2E/16 FE30=2E/16+2E/16 FE31=2014/16",
  "FE32=2013/16 FE33-FE34:5F/16 FE35-FE36=28/16 FE37=7B/16 FE38=7D/16 FE39-FE3A=3014/16",
  "FE3B-FE3C=3010/16 FE3D-FE3E=300A/16 FE3F-FE40=2329/16 FE41-FE44=300C/16 FE47=5B/16",
  "FE48=5D/16 FE49-FE4C:203E/4 FE4D-FE4F:5F/4 FE50=2C/F FE51=3001/F FE52=2E/F FE54=3B/F",
  "FE55=3A/F FE56=3F/F FE57=21/F FE58=2014/F FE59-FE5A=28/F FE5B=7B/F FE5C=7D/F",
  "FE5D-FE5E=3014/F FE5F=23/F FE60=26/F FE61-FE62=2A/F FE63=2D/F FE64=3C/F FE65=3E/F FE66=3D/F",
  "FE68=5C/F FE69-FE6A=24/F FE6B=40/F FF01-FF20=21/3 FF21-FF3A=61/9 FF3B-FF5E=5B/3",
  "FF5F-FF60=2985/3 FF61=3002/12 FF62-FF63=300C/12 FF64=3001/12 FF65=30FB/12 FF66=1B152/12",
  "FF67=3041/10 FF68=3043/10 FF69=3045/10 FF6A=3047/10 FF6B=3049/10 FF6C=3083/10 FF6D=3085/10",
  "FF6E=3087/10 FF6F=3063/10 FF70=30FC/12 FF71=3041/12 FF72=3043/12 FF73=3045/12 FF74=3047/12",
  "FF75=3049/12 FF76=3095/12 FF77=304D/12 FF78=304F/12 FF79=3096/12 FF7A=3053/12 FF7B=3055/12",
  "FF7C=3057/12 FF7D=3059/12 FF7E=305B/12 FF7F=305D/12 FF80=305F/12 FF81=3061/12 FF82=3063/12",
  "FF83=3066/12 FF84=3068/12 FF85-FF8A=306A/12 FF8B=3072/12 FF8C=3075/12 FF8D=3078/12",
  "FF8E=307B/12 FF8F-FF94=307E/12 FF95=3085/12 FF96=3087/12 FF97-FF9C=3089/12 FF9D=3093/12",
  "FFA0=1160/12 FFA1-FFA2=1100/12 FFA3=11AA/12 FFA4=1102/12 FFA5-FFA6=11AC/12 FFA7-FFA9=1103/12",
  "FFAA-FFAF=11B0/12 FFB0=111A/12 FFB1-FFB3=1106/12 FFB4=1121/12 FFB5-FFBE=1109/12",
  "FFC2-FFC7=1161/12 FFCA-FFCF=1167/12 FFD2-FFD7=116D/12 FFDA-FFDC=1173/12 FFE0-FFE1=A2/3",
  "FFE2=AC/3 FFE3=AF/3 FFE4=A6/3 FFE5=A5/3 FFE6=20A9/3 FFE8=2502/12 FFE9-FFEC=2190/12",
  "FFED=25A0/12 FFEE=25CB/12 1D400-1D419=61/B 1D41A-1D433=61/5 1D434-1D44D=61/B",
  "1D44E-1D454=61/5 1D456-1D467=69/5 1D468-1D481=61/B 1D482-1D49B=61/5 1D49C=61/B",
  "1D49E-1D49F=63/B 1D4A2=67/B 1D4A5-1D4A6=6A/B 1D4A9-1D4AC=6E/B 1D4AE-1D4B5=73/B",
  "1D4B6-1D4B9=61/5 1D4BB=66/5 1D4BD-1D4C3=68/5 1D4C5-1D4CF=70/5 1D4D0-1D4E9=61/B",
  "1D4EA-1D503=61/5 1D504-1D505=61/B 1D507-1D50A=64/B 1D50D-1D514=6A/B 1D516-1D51C=73/B",
  "1D51E-1D537=61/5 1D538-1D539=61/B 1D53B-1D53E=64/B 1D540-1D544=69/B 1D546=6F/B",
  "1D54A-1D550=73/B 1D552-1D56B=61/5 1D56C-1D585=61/B 1D586-1D59F=61/5 1D5A0-1D5B9=61/B",
  "1D5BA-1D5D3=61/5 1D5D4-1D5ED=61/B 1D5EE-1D607=61/5 1D608-1D621=61/B 1D622-1D63B=61/5",
  "1D63C-1D655=61/B 1D656-1D66F=61/5 1D670-1D689=61/B 1D68A-1D6A3=61/5 1D6A4=131/5 1D6A5=237/5",
  "1D6A8-1D6B8=3B1/B 1D6B9=3B8/B 1D6BA-1D6C0=3C3/B 1D6C1=2207/5 1D6C2-1D6D2=3B1/5",
  "1D6D3-1D6D4:3C3/5 1D6D5-1D6DA=3C4/5 1D6DB=2202/5 1D6DC=3B5/5 1D6DD=3B8/5 1D6DE=3BA/5",
  "1D6DF=3C6/5 1D6E0=3C1/5 1D6E1=3C0/5 1D6E2-1D6F2=3B1/B 1D6F3=3B8/B 1D6F4-1D6FA=3C3/B",
  "1D6FB=2207/5 1D6FC-1D70C=3B1/5 1D70D-1D70E:3C3/5 1D70F-1D714=3C4/5 1D715=2202/5 1D716=3B5/5",
  "1D717=3B8/5 1D718=3BA/5 1D719=3C6/5 1D71A=3C1/5 1D71B=3C0/5 1D71C-1D72C=3B1/B 1D72D=3B8/B",
  "1D72E-1D734=3C3/B 1D735=2207/5 1D736-1D746=3B1/5 1D747-1D748:3C3/5 1D749-1D74E=3C4/5",
  "1D74F=2202/5 1D750=3B5/5 1D751=3B8/5 1D752=3BA/5 1D753=3C6/5 1D754=3C1/5 1D755=3C0/5",
  "1D756-1D766=3B1/B 1D767=3B8/B 1D768-1D76E=3C3/B 1D76F=2207/5 1D770-1D780=3B1/5",
  "1D781-1D782:3C3/5 1D783-1D788=3C4/5 1D789=2202/5 1D78A=3B5/5 1D78B=3B8/5 1D78C=3BA/5",
  "1D78D=3C6/5 1D78E=3C1/5 1D78F=3C0/5 1D790-1D7A0=3B1/B 1D7A1=3B8/B 1D7A2-1D7A8=3C3/B",
  "1D7A9=2207/5 1D7AA-1D7BA=3B1/5 1D7BB-1D7BC:3C3/5 1D7BD-1D7C2=3C4/5 1D7C3=2202/5 1D7C4=3B5/5",
  "1D7C5=3B8/5 1D7C6=3BA/5 1D7C7=3C6/5 1D7C8=3C1/5 1D7C9=3C0/5 1D7CA=3DD/B 1D7CB=3DD/5",
  "1D7CE-1D7D7=30/5 1D7D8-1D7E1=30/5 1D7E2-1D7EB=30/5 1D7EC-1D7F5=30/5 1D7F6-1D7FF=30/5",
  "1F100=30/4+2E/4 1F101=30/4+2C/4 1F102=31/4+2C/4 1F103=32/4+2C/4 1F104=33/4+2C/4",
  "1F105=34/4+2C/4 1F106=35/4+2C/4 1F107=36/4+2C/4 1F108=37/4+2C/4 1F109=38/4+2C/4",
  "1F10A=39/4+2C/4 1F10B-1F10C:30/6 1F110=28/4+61/A+29/4 1F111=28/4+62/A+29/4",
  "1F112=28/4+63/A+29/4 1F113=28/4+64/A+29/4 1F114=28/4+65/A+29/4 1F115=28/4+66/A+29/4",
  "1F116=28/4+67/A+29/4 1F117=28/4+68/A+29/4 1F118=28/4+69/A+29/4 1F119=28/4+6A/A+29/4",
  "1F11A=28/4+6B/A+29/4 1F11B=28/4+6C/A+29/4 1F11C=28/4+6D/A+29/4 1F11D=28/4+6E/A+29/4",
  "1F11E=28/4+6F/A+29/4 1F11F=28/4+70/A+29/4 1F120=28/4+71/A+29/4 1F121=28/4+72/A+29/4",
  "1F122=28/4+73/A+29/4 1F123=28/4+74/A+29/4 1F124=28/4+75/A+29/4 1F125=28/4+76/A+29/4",
  "1F126=28/4+77/A+29/4 1F127=28/4+78/A+29/4 1F128=28/4+79/A+29/4 1F129=28/4+7A/A+29/4",
  "1F12A=3014/4+73/A+3015/4 1F12B=63/C 1F12C=72/C 1F12D=63/C+64/C 1F12E=77/C+7A/C",
  "1F130-1F149=61/1D 1F14A=68/1D+76/1D 1F14B=6D/1D+76/1D 1F14C=73/1D+64/1D 1F14D=73/1D+73/1D",
  "1F14E=70/1D+70/1D+76/1D 1F14F=77/1D+63/1D 1F150-1F169=61/C 1F16A=6D/14+63/14",
  "1F16B=6D/14+64/14 1F16C=6D/14+72/14 1F170-1F189=61/1D 1F18A=70/1D 1F18B=69/1D+63/1D",
  "1F18C=70/1D+61/1D 1F18D=73/1D+61/1D 1F18E=61/1D+62/1D 1F18F=77/1D+63/1D 1F190=64/1D+6A/1D",
  "1F191=63/1D+6C/1D 1F192=63/1D+6F/1D+6F/1D+6C/1D 1F193=66/1D+72/1D+65/1D+65/1D",
  "1F194=69/1D+64/1D 1F195=6E/1D+65/1D+77/1D 1F196=6E/1D+67/1D 1F197=6F/1D+6B/1D",
  "1F198=73/1D+6F/1D+73/1D 1F199=75/1D+70/1D+21/1C 1F19A=76/1D+73/1D 1F19B=33/1C+64/1D",
  "1F19C=32/1C+6E/1C+64/1C+20/1C+73/1D+63/1C+72/1C 1F19D=32/1C+6B/1D 1F19E=34/1C+6B/1D",
  "1F19F=38/1C+6B/1D 1F1A0=35/1C+2E/1C+31/1C 1F1A1=37/1C+2E/1C+31/1C",
  "1F1A2=32/1C+32/1C+2E/1C+32/1C 1F1A3=36/1C+30/1C+70/1D 1F1A4=31/1C+32/1C+30/1C+70/1D",
  "1F1A5=64/1C 1F1A6=68/1D+63/1C 1F1A7=68/1D+64/1C+72/1D",
  "1F1A8=68/1D+69/1C+20/1C+72/1D+65/1C+73/1C",
  "1F1A9=6C/1D+6F/1C+73/1C+73/1C+6C/1C+65/1C+73/1C+73/1C 1F1AA=73/1D+68/1D+76/1D",
  "1F1AB=75/1D+68/1D+64/1D 1F1AC=76/1D+6F/1D+64/1D 1F200=307B/1C+3095/1C 1F201=3053/1C+3053/1C",
  "1F202=3055/1C 1F210=624B/1C 1F211=5B57/1C 1F212=53CC/1C 1F213=3066/1C+3099/1C 1F214=4E8C/1C",
  "1F215=591A/1C 1F216=89E3/1C 1F217=5929/1C 1F218=4EA4/1C 1F219=6620/1C 1F21A=7121/1C",
  "1F21B=6599/1C 1F21C=524D/1C 1F21D=5F8C/1C 1F21E=518D/1C 1F21F=65B0/1C 1F220=521D/1C",
  "1F221=7D42/1C 1F222=751F/1C 1F223=8CA9/1C 1F224=58F0/1C 1F225=5439/1C 1F226=6F14/1C",
  "1F227=6295/1C 1F228=6355/1C 1F229=4E00/1C 1F22A=4E09/1C 1F22B=904A/1C 1F22C=5DE6/1C",
  "1F22D=4E2D/1C 1F22E=53F3/1C 1F22F=6307/1C 1F230=8D70/1C 1F231=6253/1C 1F232=7981/1C",
  "1F233=7A7A/1C 1F234=5408/1C 1F235=6E80/1C 1F236=6709/1C 1F237=6708/1C 1F238=7533/1C",
  "1F239=5272/1C 1F23A=55B6/1C 1F23B=914D/1C 1F240=3014/4+672C/4+3015/4",
  "1F241=3014/4+4E09/4+3015/4 1F242=3014/4+4E8C/4+3015/4 1F243=3014/4+5B89/4+3015/4",
  "1F244=3014/4+70B9/4+3015/4 1F245=3014/4+6253/4+3015/4 1F246=3014/4+76D7/4+3015/4",
  "1F247=3014/4+52DD/4+3015/4 1F248=3014/4+6557/4+3015/4 1F250=5F97/6 1F251=53EF/6"
]

end Inlay.Collation
