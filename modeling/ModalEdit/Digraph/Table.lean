/-!
The digraphs that every session starts with, in the order of their listing.
-/

set_option autoImplicit false

namespace ModalEdit

/-- A group of digraphs: its heading, if it has one, and each pair with its code point. -/
structure DigraphSection where
  header? : Option String
  entries : List (Char × Char × Nat)

def basicDigraphs : List (Char × Char × Nat) := [
  ('N', 'U', 0), ('S', 'H', 1), ('S', 'X', 2), ('E', 'X', 3), ('E', 'T', 4),
  ('E', 'Q', 5), ('A', 'K', 6), ('B', 'L', 7), ('B', 'S', 8), ('H', 'T', 9),
  ('L', 'F', 10), ('V', 'T', 11), ('F', 'F', 12), ('C', 'R', 13), ('S', 'O', 14),
  ('S', 'I', 15), ('D', 'L', 16), ('D', '1', 17), ('D', '2', 18), ('D', '3', 19),
  ('D', '4', 20), ('N', 'K', 21), ('S', 'Y', 22), ('E', 'B', 23), ('C', 'N', 24),
  ('E', 'M', 25), ('S', 'B', 26), ('E', 'C', 27), ('F', 'S', 28), ('G', 'S', 29),
  ('R', 'S', 30), ('U', 'S', 31), ('S', 'P', 32), ('N', 'b', 35), ('D', 'O', 36),
  ('A', 't', 64), ('<', '(', 91), ('/', '/', 92), (')', '>', 93), ('\'', '>', 94),
  ('\'', '!', 96), ('(', '!', 123), ('!', '!', 124), ('!', ')', 125), ('\'', '?', 126),
  ('D', 'T', 127), ('P', 'A', 128), ('H', 'O', 129), ('B', 'H', 130), ('N', 'H', 131),
  ('I', 'N', 132), ('N', 'L', 133), ('S', 'A', 134), ('E', 'S', 135), ('H', 'S', 136),
  ('H', 'J', 137), ('V', 'S', 138), ('P', 'D', 139), ('P', 'U', 140), ('R', 'I', 141),
  ('S', '2', 142), ('S', '3', 143), ('D', 'C', 144), ('P', '1', 145), ('P', '2', 146),
  ('T', 'S', 147), ('C', 'C', 148), ('M', 'W', 149), ('S', 'G', 150), ('E', 'G', 151),
  ('S', 'S', 152), ('G', 'C', 153), ('S', 'C', 154), ('C', 'I', 155), ('S', 'T', 156),
  ('O', 'C', 157), ('P', 'M', 158), ('A', 'C', 159), ('N', 'S', 160)]

def latinSupplementDigraphs : List (Char × Char × Nat) := [
  ('!', 'I', 161), ('~', '!', 161), ('C', 't', 162), ('c', '|', 162), ('P', 'd', 163),
  ('$', '$', 163), ('C', 'u', 164), ('o', 'x', 164), ('Y', 'e', 165), ('Y', '-', 165),
  ('B', 'B', 166), ('|', '|', 166), ('S', 'E', 167), ('\'', ':', 168), ('C', 'o', 169),
  ('c', 'O', 169), ('-', 'a', 170), ('<', '<', 171), ('N', 'O', 172), ('-', ',', 172),
  ('-', '-', 173), ('R', 'g', 174), ('\'', 'm', 175), ('-', '=', 175), ('D', 'G', 176),
  ('~', 'o', 176), ('+', '-', 177), ('2', 'S', 178), ('2', '2', 178), ('3', 'S', 179),
  ('3', '3', 179), ('\'', '\'', 180), ('M', 'y', 181), ('P', 'I', 182), ('p', 'p', 182),
  ('.', 'M', 183), ('~', '.', 183), ('\'', ',', 184), ('1', 'S', 185), ('1', '1', 185),
  ('-', 'o', 186), ('>', '>', 187), ('1', '4', 188), ('1', '2', 189), ('3', '4', 190),
  ('?', 'I', 191), ('~', '?', 191), ('A', '!', 192), ('A', '`', 192), ('A', '\'', 193),
  ('A', '>', 194), ('A', '^', 194), ('A', '?', 195), ('A', '~', 195), ('A', ':', 196),
  ('A', '"', 196), ('A', 'A', 197), ('A', '@', 197), ('A', 'E', 198), ('C', ',', 199),
  ('E', '!', 200), ('E', '`', 200), ('E', '\'', 201), ('E', '>', 202), ('E', '^', 202),
  ('E', ':', 203), ('E', '"', 203), ('I', '!', 204), ('I', '`', 204), ('I', '\'', 205),
  ('I', '>', 206), ('I', '^', 206), ('I', ':', 207), ('I', '"', 207), ('D', '-', 208),
  ('N', '?', 209), ('N', '~', 209), ('O', '!', 210), ('O', '`', 210), ('O', '\'', 211),
  ('O', '>', 212), ('O', '^', 212), ('O', '?', 213), ('O', '~', 213), ('O', ':', 214),
  ('*', 'X', 215), ('/', '\\', 215), ('O', '/', 216), ('U', '!', 217), ('U', '`', 217),
  ('U', '\'', 218), ('U', '>', 219), ('U', '^', 219), ('U', ':', 220), ('Y', '\'', 221),
  ('T', 'H', 222), ('I', 'p', 222), ('s', 's', 223), ('a', '!', 224), ('a', '`', 224),
  ('a', '\'', 225), ('a', '>', 226), ('a', '^', 226), ('a', '?', 227), ('a', '~', 227),
  ('a', ':', 228), ('a', '"', 228), ('a', 'a', 229), ('a', '@', 229), ('a', 'e', 230),
  ('c', ',', 231), ('e', '!', 232), ('e', '`', 232), ('e', '\'', 233), ('e', '>', 234),
  ('e', '^', 234), ('e', ':', 235), ('e', '"', 235), ('i', '!', 236), ('i', '`', 236),
  ('i', '\'', 237), ('i', '>', 238), ('i', '^', 238), ('i', ':', 239), ('d', '-', 240),
  ('n', '?', 241), ('n', '~', 241), ('o', '!', 242), ('o', '`', 242), ('o', '\'', 243),
  ('o', '>', 244), ('o', '^', 244), ('o', '?', 245), ('o', '~', 245), ('o', ':', 246),
  ('-', ':', 247), ('o', '/', 248), ('u', '!', 249), ('u', '`', 249), ('u', '\'', 250),
  ('u', '>', 251), ('u', '^', 251), ('u', ':', 252), ('y', '\'', 253), ('t', 'h', 254),
  ('y', ':', 255), ('y', '"', 255), ('A', '-', 256), ('a', '-', 257), ('A', '(', 258),
  ('a', '(', 259), ('A', ';', 260), ('a', ';', 261), ('C', '\'', 262), ('c', '\'', 263),
  ('C', '>', 264), ('c', '>', 265), ('C', '.', 266), ('c', '.', 267), ('C', '<', 268),
  ('c', '<', 269), ('D', '<', 270), ('d', '<', 271), ('D', '/', 272), ('d', '/', 273),
  ('E', '-', 274), ('e', '-', 275), ('E', '(', 276), ('e', '(', 277), ('E', '.', 278),
  ('e', '.', 279), ('E', ';', 280), ('e', ';', 281), ('E', '<', 282), ('e', '<', 283),
  ('G', '>', 284), ('g', '>', 285), ('G', '(', 286), ('g', '(', 287), ('G', '.', 288),
  ('g', '.', 289), ('G', ',', 290), ('g', ',', 291), ('H', '>', 292), ('h', '>', 293),
  ('H', '/', 294), ('h', '/', 295), ('I', '?', 296), ('i', '?', 297), ('I', '-', 298),
  ('i', '-', 299), ('I', '(', 300), ('i', '(', 301), ('I', ';', 302), ('i', ';', 303),
  ('I', '.', 304), ('i', '.', 305), ('I', 'J', 306), ('i', 'j', 307), ('J', '>', 308),
  ('j', '>', 309), ('K', ',', 310), ('k', ',', 311), ('k', 'k', 312), ('L', '\'', 313),
  ('l', '\'', 314), ('L', ',', 315), ('l', ',', 316), ('L', '<', 317), ('l', '<', 318),
  ('L', '.', 319), ('l', '.', 320), ('L', '/', 321), ('l', '/', 322), ('N', '\'', 323),
  ('n', '\'', 324), ('N', ',', 325), ('n', ',', 326), ('N', '<', 327), ('n', '<', 328),
  ('\'', 'n', 329), ('N', 'G', 330), ('n', 'g', 331), ('O', '-', 332), ('o', '-', 333),
  ('O', '(', 334), ('o', '(', 335), ('O', '"', 336), ('o', '"', 337), ('O', 'E', 338),
  ('o', 'e', 339), ('R', '\'', 340), ('r', '\'', 341), ('R', ',', 342), ('r', ',', 343),
  ('R', '<', 344), ('r', '<', 345), ('S', '\'', 346), ('s', '\'', 347), ('S', '>', 348),
  ('s', '>', 349), ('S', ',', 350), ('s', ',', 351), ('S', '<', 352), ('s', '<', 353),
  ('T', ',', 354), ('t', ',', 355), ('T', '<', 356), ('t', '<', 357), ('T', '/', 358),
  ('t', '/', 359), ('U', '?', 360), ('u', '?', 361), ('U', '-', 362), ('u', '-', 363),
  ('U', '(', 364), ('u', '(', 365), ('U', '0', 366), ('u', '0', 367), ('U', '"', 368),
  ('u', '"', 369), ('U', ';', 370), ('u', ';', 371), ('W', '>', 372), ('w', '>', 373),
  ('Y', '>', 374), ('y', '>', 375), ('Y', ':', 376), ('Z', '\'', 377), ('z', '\'', 378),
  ('Z', '.', 379), ('z', '.', 380), ('Z', '<', 381), ('z', '<', 382), ('O', '9', 416),
  ('o', '9', 417), ('O', 'I', 418), ('o', 'i', 419), ('y', 'r', 422), ('U', '9', 431),
  ('u', '9', 432), ('Z', '/', 437), ('z', '/', 438), ('E', 'D', 439), ('A', '<', 461),
  ('a', '<', 462), ('I', '<', 463), ('i', '<', 464), ('O', '<', 465), ('o', '<', 466),
  ('U', '<', 467), ('u', '<', 468), ('A', '1', 478), ('a', '1', 479), ('A', '7', 480),
  ('a', '7', 481), ('A', '3', 482), ('a', '3', 483), ('G', '/', 484), ('g', '/', 485),
  ('G', '<', 486), ('g', '<', 487), ('K', '<', 488), ('k', '<', 489), ('O', ';', 490),
  ('o', ';', 491), ('O', '1', 492), ('o', '1', 493), ('E', 'Z', 494), ('e', 'z', 495),
  ('j', '<', 496), ('G', '\'', 500), ('g', '\'', 501), (';', 'S', 703), ('\'', '<', 711),
  ('\'', '(', 728), ('\'', '.', 729), ('\'', '0', 730), ('\'', ';', 731), ('\'', '"', 733)]

def greekAndCopticDigraphs : List (Char × Char × Nat) := [
  ('A', '%', 902), ('E', '%', 904), ('Y', '%', 905), ('I', '%', 906), ('O', '%', 908),
  ('U', '%', 910), ('W', '%', 911), ('i', '3', 912), ('A', '*', 913), ('B', '*', 914),
  ('G', '*', 915), ('D', '*', 916), ('E', '*', 917), ('Z', '*', 918), ('Y', '*', 919),
  ('H', '*', 920), ('I', '*', 921), ('K', '*', 922), ('L', '*', 923), ('M', '*', 924),
  ('N', '*', 925), ('C', '*', 926), ('O', '*', 927), ('P', '*', 928), ('R', '*', 929),
  ('S', '*', 931), ('T', '*', 932), ('U', '*', 933), ('F', '*', 934), ('X', '*', 935),
  ('Q', '*', 936), ('W', '*', 937), ('J', '*', 938), ('V', '*', 939), ('a', '%', 940),
  ('e', '%', 941), ('y', '%', 942), ('i', '%', 943), ('u', '3', 944), ('a', '*', 945),
  ('b', '*', 946), ('g', '*', 947), ('d', '*', 948), ('e', '*', 949), ('z', '*', 950),
  ('y', '*', 951), ('h', '*', 952), ('i', '*', 953), ('k', '*', 954), ('l', '*', 955),
  ('m', '*', 956), ('n', '*', 957), ('c', '*', 958), ('o', '*', 959), ('p', '*', 960),
  ('r', '*', 961), ('*', 's', 962), ('s', '*', 963), ('t', '*', 964), ('u', '*', 965),
  ('f', '*', 966), ('x', '*', 967), ('q', '*', 968), ('w', '*', 969), ('j', '*', 970),
  ('v', '*', 971), ('o', '%', 972), ('u', '%', 973), ('w', '%', 974), ('\'', 'G', 984),
  (',', 'G', 985), ('T', '3', 986), ('t', '3', 987), ('M', '3', 988), ('m', '3', 989),
  ('K', '3', 990), ('k', '3', 991), ('P', '3', 992), ('p', '3', 993), ('\'', '%', 1012),
  ('j', '3', 1013)]

def cyrillicDigraphs : List (Char × Char × Nat) := [
  ('I', 'O', 1025), ('D', '%', 1026), ('G', '%', 1027), ('I', 'E', 1028), ('D', 'S', 1029),
  ('I', 'I', 1030), ('Y', 'I', 1031), ('J', '%', 1032), ('L', 'J', 1033), ('N', 'J', 1034),
  ('T', 's', 1035), ('K', 'J', 1036), ('V', '%', 1038), ('D', 'Z', 1039), ('A', '=', 1040),
  ('B', '=', 1041), ('V', '=', 1042), ('G', '=', 1043), ('D', '=', 1044), ('E', '=', 1045),
  ('Z', '%', 1046), ('Z', '=', 1047), ('I', '=', 1048), ('J', '=', 1049), ('K', '=', 1050),
  ('L', '=', 1051), ('M', '=', 1052), ('N', '=', 1053), ('O', '=', 1054), ('P', '=', 1055),
  ('R', '=', 1056), ('S', '=', 1057), ('T', '=', 1058), ('U', '=', 1059), ('F', '=', 1060),
  ('H', '=', 1061), ('C', '=', 1062), ('C', '%', 1063), ('S', '%', 1064), ('S', 'c', 1065),
  ('=', '"', 1066), ('Y', '=', 1067), ('%', '"', 1068), ('J', 'E', 1069), ('J', 'U', 1070),
  ('J', 'A', 1071), ('a', '=', 1072), ('b', '=', 1073), ('v', '=', 1074), ('g', '=', 1075),
  ('d', '=', 1076), ('e', '=', 1077), ('z', '%', 1078), ('z', '=', 1079), ('i', '=', 1080),
  ('j', '=', 1081), ('k', '=', 1082), ('l', '=', 1083), ('m', '=', 1084), ('n', '=', 1085),
  ('o', '=', 1086), ('p', '=', 1087), ('r', '=', 1088), ('s', '=', 1089), ('t', '=', 1090),
  ('u', '=', 1091), ('f', '=', 1092), ('h', '=', 1093), ('c', '=', 1094), ('c', '%', 1095),
  ('s', '%', 1096), ('s', 'c', 1097), ('=', '\'', 1098), ('y', '=', 1099), ('%', '\'', 1100),
  ('j', 'e', 1101), ('j', 'u', 1102), ('j', 'a', 1103), ('i', 'o', 1105), ('d', '%', 1106),
  ('g', '%', 1107), ('i', 'e', 1108), ('d', 's', 1109), ('i', 'i', 1110), ('y', 'i', 1111),
  ('j', '%', 1112), ('l', 'j', 1113), ('n', 'j', 1114), ('t', 's', 1115), ('k', 'j', 1116),
  ('v', '%', 1118), ('d', 'z', 1119), ('Y', '3', 1122), ('y', '3', 1123), ('O', '3', 1130),
  ('o', '3', 1131), ('F', '3', 1138), ('f', '3', 1139), ('V', '3', 1140), ('v', '3', 1141),
  ('C', '3', 1152), ('c', '3', 1153), ('G', '3', 1168), ('g', '3', 1169)]

def hebrewDigraphs : List (Char × Char × Nat) := [
  ('A', '+', 1488), ('B', '+', 1489), ('G', '+', 1490), ('D', '+', 1491), ('H', '+', 1492),
  ('W', '+', 1493), ('Z', '+', 1494), ('X', '+', 1495), ('T', 'j', 1496), ('J', '+', 1497),
  ('K', '%', 1498), ('K', '+', 1499), ('L', '+', 1500), ('M', '%', 1501), ('M', '+', 1502),
  ('N', '%', 1503), ('N', '+', 1504), ('S', '+', 1505), ('E', '+', 1506), ('P', '%', 1507),
  ('P', '+', 1508), ('Z', 'j', 1509), ('Z', 'J', 1510), ('Q', '+', 1511), ('R', '+', 1512),
  ('S', 'h', 1513), ('T', '+', 1514)]

def arabicDigraphs : List (Char × Char × Nat) := [
  (',', '+', 1548), (';', '+', 1563), ('?', '+', 1567), ('H', '\'', 1569), ('a', 'M', 1570),
  ('a', 'H', 1571), ('w', 'H', 1572), ('a', 'h', 1573), ('y', 'H', 1574), ('a', '+', 1575),
  ('b', '+', 1576), ('t', 'm', 1577), ('t', '+', 1578), ('t', 'k', 1579), ('g', '+', 1580),
  ('h', 'k', 1581), ('x', '+', 1582), ('d', '+', 1583), ('d', 'k', 1584), ('r', '+', 1585),
  ('z', '+', 1586), ('s', '+', 1587), ('s', 'n', 1588), ('c', '+', 1589), ('d', 'd', 1590),
  ('t', 'j', 1591), ('z', 'H', 1592), ('e', '+', 1593), ('i', '+', 1594), ('+', '+', 1600),
  ('f', '+', 1601), ('q', '+', 1602), ('k', '+', 1603), ('l', '+', 1604), ('m', '+', 1605),
  ('n', '+', 1606), ('h', '+', 1607), ('w', '+', 1608), ('j', '+', 1609), ('y', '+', 1610),
  (':', '+', 1611), ('"', '+', 1612), ('=', '+', 1613), ('/', '+', 1614), ('\'', '+', 1615),
  ('1', '+', 1616), ('3', '+', 1617), ('0', '+', 1618), ('a', 'S', 1648), ('p', '+', 1662),
  ('v', '+', 1700), ('g', 'f', 1711), ('0', 'a', 1776), ('1', 'a', 1777), ('2', 'a', 1778),
  ('3', 'a', 1779), ('4', 'a', 1780), ('5', 'a', 1781), ('6', 'a', 1782), ('7', 'a', 1783),
  ('8', 'a', 1784), ('9', 'a', 1785)]

def latinExtendedDigraphs : List (Char × Char × Nat) := [
  ('B', '.', 7682), ('b', '.', 7683), ('B', '_', 7686), ('b', '_', 7687), ('D', '.', 7690),
  ('d', '.', 7691), ('D', '_', 7694), ('d', '_', 7695), ('D', ',', 7696), ('d', ',', 7697),
  ('F', '.', 7710), ('f', '.', 7711), ('G', '-', 7712), ('g', '-', 7713), ('H', '.', 7714),
  ('h', '.', 7715), ('H', ':', 7718), ('h', ':', 7719), ('H', ',', 7720), ('h', ',', 7721),
  ('K', '\'', 7728), ('k', '\'', 7729), ('K', '_', 7732), ('k', '_', 7733), ('L', '_', 7738),
  ('l', '_', 7739), ('M', '\'', 7742), ('m', '\'', 7743), ('M', '.', 7744), ('m', '.', 7745),
  ('N', '.', 7748), ('n', '.', 7749), ('N', '_', 7752), ('n', '_', 7753), ('P', '\'', 7764),
  ('p', '\'', 7765), ('P', '.', 7766), ('p', '.', 7767), ('R', '.', 7768), ('r', '.', 7769),
  ('R', '_', 7774), ('r', '_', 7775), ('S', '.', 7776), ('s', '.', 7777), ('T', '.', 7786),
  ('t', '.', 7787), ('T', '_', 7790), ('t', '_', 7791), ('V', '?', 7804), ('v', '?', 7805),
  ('W', '!', 7808), ('W', '`', 7808), ('w', '!', 7809), ('w', '`', 7809), ('W', '\'', 7810),
  ('w', '\'', 7811), ('W', ':', 7812), ('w', ':', 7813), ('W', '.', 7814), ('w', '.', 7815),
  ('X', '.', 7818), ('x', '.', 7819), ('X', ':', 7820), ('x', ':', 7821), ('Y', '.', 7822),
  ('y', '.', 7823), ('Z', '>', 7824), ('z', '>', 7825), ('Z', '_', 7828), ('z', '_', 7829),
  ('h', '_', 7830), ('t', ':', 7831), ('w', '0', 7832), ('y', '0', 7833), ('A', '2', 7842),
  ('a', '2', 7843), ('E', '2', 7866), ('e', '2', 7867), ('E', '?', 7868), ('e', '?', 7869),
  ('I', '2', 7880), ('i', '2', 7881), ('O', '2', 7886), ('o', '2', 7887), ('U', '2', 7910),
  ('u', '2', 7911), ('Y', '!', 7922), ('Y', '`', 7922), ('y', '!', 7923), ('y', '`', 7923),
  ('Y', '2', 7926), ('y', '2', 7927), ('Y', '?', 7928), ('y', '?', 7929)]

def greekExtendedDigraphs : List (Char × Char × Nat) := [
  (';', '\'', 7936), (',', '\'', 7937), (';', '!', 7938), (',', '!', 7939), ('?', ';', 7940),
  ('?', ',', 7941), ('!', ':', 7942), ('?', ':', 7943)]

def punctuationDigraphs : List (Char × Char × Nat) := [
  ('1', 'N', 8194), ('1', 'M', 8195), ('3', 'M', 8196), ('4', 'M', 8197), ('6', 'M', 8198),
  ('1', 'T', 8201), ('1', 'H', 8202), ('-', '1', 8208), ('-', 'N', 8211), ('-', 'M', 8212),
  ('-', '3', 8213), ('!', '2', 8214), ('=', '2', 8215), ('\'', '6', 8216), ('\'', '9', 8217),
  ('.', '9', 8218), ('9', '\'', 8219), ('"', '6', 8220), ('"', '9', 8221), (':', '9', 8222),
  ('9', '"', 8223), ('/', '-', 8224), ('/', '=', 8225), ('o', 'o', 8226), ('.', '.', 8229),
  (',', '.', 8230), ('%', '0', 8240), ('1', '\'', 8242), ('2', '\'', 8243), ('3', '\'', 8244),
  ('4', '\'', 8279), ('1', '"', 8245), ('2', '"', 8246), ('3', '"', 8247), ('C', 'a', 8248),
  ('<', '1', 8249), ('>', '1', 8250), (':', 'X', 8251), ('\'', '-', 8254), ('/', 'f', 8260)]

def superAndSubscriptsDigraphs : List (Char × Char × Nat) := [
  ('0', 'S', 8304), ('4', 'S', 8308), ('5', 'S', 8309), ('6', 'S', 8310), ('7', 'S', 8311),
  ('8', 'S', 8312), ('9', 'S', 8313), ('+', 'S', 8314), ('-', 'S', 8315), ('=', 'S', 8316),
  ('(', 'S', 8317), (')', 'S', 8318), ('n', 'S', 8319), ('0', 's', 8320), ('1', 's', 8321),
  ('2', 's', 8322), ('3', 's', 8323), ('4', 's', 8324), ('5', 's', 8325), ('6', 's', 8326),
  ('7', 's', 8327), ('8', 's', 8328), ('9', 's', 8329), ('+', 's', 8330), ('-', 's', 8331),
  ('=', 's', 8332), ('(', 's', 8333), (')', 's', 8334)]

def currencyDigraphs : List (Char × Char × Nat) := [
  ('L', 'i', 8356), ('P', 't', 8359), ('W', '=', 8361), ('=', 'e', 8364), ('E', 'u', 8364),
  ('=', 'R', 8381), ('=', 'P', 8381)]

def otherDigraphs : List (Char × Char × Nat) := [
  ('o', 'C', 8451), ('c', 'o', 8453), ('o', 'F', 8457), ('N', '0', 8470), ('P', 'O', 8471),
  ('R', 'x', 8478), ('S', 'M', 8480), ('T', 'M', 8482), ('O', 'm', 8486), ('A', 'O', 8491),
  ('1', '3', 8531), ('2', '3', 8532), ('1', '5', 8533), ('2', '5', 8534), ('3', '5', 8535),
  ('4', '5', 8536), ('1', '6', 8537), ('5', '6', 8538), ('1', '8', 8539), ('3', '8', 8540),
  ('5', '8', 8541), ('7', '8', 8542)]

def romanNumbersDigraphs : List (Char × Char × Nat) := [
  ('1', 'R', 8544), ('2', 'R', 8545), ('3', 'R', 8546), ('4', 'R', 8547), ('5', 'R', 8548),
  ('6', 'R', 8549), ('7', 'R', 8550), ('8', 'R', 8551), ('9', 'R', 8552), ('a', 'R', 8553),
  ('b', 'R', 8554), ('c', 'R', 8555), ('1', 'r', 8560), ('2', 'r', 8561), ('3', 'r', 8562),
  ('4', 'r', 8563), ('5', 'r', 8564), ('6', 'r', 8565), ('7', 'r', 8566), ('8', 'r', 8567),
  ('9', 'r', 8568), ('a', 'r', 8569), ('b', 'r', 8570), ('c', 'r', 8571)]

def arrowsDigraphs : List (Char × Char × Nat) := [
  ('<', '-', 8592), ('-', '!', 8593), ('-', '>', 8594), ('-', 'v', 8595), ('<', '>', 8596),
  ('U', 'D', 8597), ('<', '=', 8656), ('=', '>', 8658), ('=', '=', 8660)]

def mathematicalOperatorsDigraphs : List (Char × Char × Nat) := [
  ('F', 'A', 8704), ('d', 'P', 8706), ('T', 'E', 8707), ('/', '0', 8709), ('D', 'E', 8710),
  ('N', 'B', 8711), ('(', '-', 8712), ('-', ')', 8715), ('*', 'P', 8719), ('+', 'Z', 8721),
  ('-', '2', 8722), ('-', '+', 8723), ('*', '-', 8727), ('O', 'b', 8728), ('S', 'b', 8729),
  ('R', 'T', 8730), ('0', '(', 8733), ('0', '0', 8734), ('-', 'L', 8735), ('-', 'V', 8736),
  ('P', 'P', 8741), ('A', 'N', 8743), ('O', 'R', 8744), ('(', 'U', 8745), (')', 'U', 8746),
  ('I', 'n', 8747), ('D', 'I', 8748), ('I', 'o', 8750), ('.', ':', 8756), (':', '.', 8757),
  (':', 'R', 8758), (':', ':', 8759), ('?', '1', 8764), ('C', 'G', 8766), ('?', '-', 8771),
  ('?', '=', 8773), ('?', '2', 8776), ('=', '?', 8780), ('H', 'I', 8787), ('!', '=', 8800),
  ('=', '3', 8801), ('=', '<', 8804), ('>', '=', 8805), ('<', '*', 8810), ('*', '>', 8811),
  ('!', '<', 8814), ('!', '>', 8815), ('(', 'C', 8834), (')', 'C', 8835), ('(', '_', 8838),
  (')', '_', 8839), ('0', '.', 8857), ('0', '2', 8858), ('-', 'T', 8869), ('.', 'P', 8901),
  (':', '3', 8942), ('.', '3', 8943)]

def technicalDigraphs : List (Char × Char × Nat) := [
  ('E', 'h', 8962), ('<', '7', 8968), ('>', '7', 8969), ('7', '<', 8970), ('7', '>', 8971),
  ('N', 'I', 8976), ('(', 'A', 8978), ('T', 'R', 8981), ('I', 'u', 8992), ('I', 'l', 8993),
  ('<', '/', 9001), ('/', '>', 9002)]

def otherSecondDigraphs : List (Char × Char × Nat) := [
  ('V', 's', 9251), ('1', 'h', 9280), ('3', 'h', 9281), ('2', 'h', 9282), ('4', 'h', 9283),
  ('1', 'j', 9286), ('2', 'j', 9287), ('3', 'j', 9288), ('4', 'j', 9289), ('1', '.', 9352),
  ('2', '.', 9353), ('3', '.', 9354), ('4', '.', 9355), ('5', '.', 9356), ('6', '.', 9357),
  ('7', '.', 9358), ('8', '.', 9359), ('9', '.', 9360)]

def boxDrawingDigraphs : List (Char × Char × Nat) := [
  ('h', 'h', 9472), ('H', 'H', 9473), ('v', 'v', 9474), ('V', 'V', 9475), ('3', '-', 9476),
  ('3', '_', 9477), ('3', '!', 9478), ('3', '/', 9479), ('4', '-', 9480), ('4', '_', 9481),
  ('4', '!', 9482), ('4', '/', 9483), ('d', 'r', 9484), ('d', 'R', 9485), ('D', 'r', 9486),
  ('D', 'R', 9487), ('d', 'l', 9488), ('d', 'L', 9489), ('D', 'l', 9490), ('L', 'D', 9491),
  ('u', 'r', 9492), ('u', 'R', 9493), ('U', 'r', 9494), ('U', 'R', 9495), ('u', 'l', 9496),
  ('u', 'L', 9497), ('U', 'l', 9498), ('U', 'L', 9499), ('v', 'r', 9500), ('v', 'R', 9501),
  ('V', 'r', 9504), ('V', 'R', 9507), ('v', 'l', 9508), ('v', 'L', 9509), ('V', 'l', 9512),
  ('V', 'L', 9515), ('d', 'h', 9516), ('d', 'H', 9519), ('D', 'h', 9520), ('D', 'H', 9523),
  ('u', 'h', 9524), ('u', 'H', 9527), ('U', 'h', 9528), ('U', 'H', 9531), ('v', 'h', 9532),
  ('v', 'H', 9535), ('V', 'h', 9538), ('V', 'H', 9547), ('F', 'D', 9585), ('B', 'D', 9586)]

def blockElementsDigraphs : List (Char × Char × Nat) := [
  ('T', 'B', 9600), ('L', 'B', 9604), ('F', 'B', 9608), ('l', 'B', 9612), ('R', 'B', 9616),
  ('.', 'S', 9617), (':', 'S', 9618), ('?', 'S', 9619)]

def geometricShapesDigraphs : List (Char × Char × Nat) := [
  ('f', 'S', 9632), ('O', 'S', 9633), ('R', 'O', 9634), ('R', 'r', 9635), ('R', 'F', 9636),
  ('R', 'Y', 9637), ('R', 'H', 9638), ('R', 'Z', 9639), ('R', 'K', 9640), ('R', 'X', 9641),
  ('s', 'B', 9642), ('S', 'R', 9644), ('O', 'r', 9645), ('U', 'T', 9650), ('u', 'T', 9651),
  ('P', 'R', 9654), ('T', 'r', 9655), ('D', 't', 9660), ('d', 'T', 9661), ('P', 'L', 9664),
  ('T', 'l', 9665), ('D', 'b', 9670), ('D', 'w', 9671), ('L', 'Z', 9674), ('0', 'm', 9675),
  ('0', 'o', 9678), ('0', 'M', 9679), ('0', 'L', 9680), ('0', 'R', 9681), ('S', 'n', 9688),
  ('I', 'c', 9689), ('F', 'd', 9698), ('B', 'd', 9699)]

def symbolsDigraphs : List (Char × Char × Nat) := [
  ('*', '2', 9733), ('*', '1', 9734), ('<', 'H', 9756), ('>', 'H', 9758), ('0', 'u', 9786),
  ('0', 'U', 9787), ('S', 'U', 9788), ('F', 'm', 9792), ('M', 'l', 9794), ('c', 'S', 9824),
  ('c', 'H', 9825), ('c', 'D', 9826), ('c', 'C', 9827), ('M', 'd', 9833), ('M', '8', 9834),
  ('M', '2', 9835), ('M', 'b', 9837), ('M', 'x', 9838), ('M', 'X', 9839)]

def dingbatsDigraphs : List (Char × Char × Nat) := [
  ('O', 'K', 10003), ('X', 'X', 10007), ('-', 'X', 10016)]

def cjkSymbolsAndPunctuationDigraphs : List (Char × Char × Nat) := [
  ('I', 'S', 12288), (',', '_', 12289), ('.', '_', 12290), ('+', '"', 12291), ('+', '_', 12292),
  ('*', '_', 12293), (';', '_', 12294), ('0', '_', 12295), ('<', '+', 12298), ('>', '+', 12299),
  ('<', '\'', 12300), ('>', '\'', 12301), ('<', '"', 12302), ('>', '"', 12303), ('(', '"', 12304),
  (')', '"', 12305), ('=', 'T', 12306), ('=', '_', 12307), ('(', '\'', 12308), (')', '\'', 12309),
  ('(', 'I', 12310), (')', 'I', 12311), ('-', '?', 12316)]

def hiraganaDigraphs : List (Char × Char × Nat) := [
  ('A', '5', 12353), ('a', '5', 12354), ('I', '5', 12355), ('i', '5', 12356), ('U', '5', 12357),
  ('u', '5', 12358), ('E', '5', 12359), ('e', '5', 12360), ('O', '5', 12361), ('o', '5', 12362),
  ('k', 'a', 12363), ('g', 'a', 12364), ('k', 'i', 12365), ('g', 'i', 12366), ('k', 'u', 12367),
  ('g', 'u', 12368), ('k', 'e', 12369), ('g', 'e', 12370), ('k', 'o', 12371), ('g', 'o', 12372),
  ('s', 'a', 12373), ('z', 'a', 12374), ('s', 'i', 12375), ('z', 'i', 12376), ('s', 'u', 12377),
  ('z', 'u', 12378), ('s', 'e', 12379), ('z', 'e', 12380), ('s', 'o', 12381), ('z', 'o', 12382),
  ('t', 'a', 12383), ('d', 'a', 12384), ('t', 'i', 12385), ('d', 'i', 12386), ('t', 'U', 12387),
  ('t', 'u', 12388), ('d', 'u', 12389), ('t', 'e', 12390), ('d', 'e', 12391), ('t', 'o', 12392),
  ('d', 'o', 12393), ('n', 'a', 12394), ('n', 'i', 12395), ('n', 'u', 12396), ('n', 'e', 12397),
  ('n', 'o', 12398), ('h', 'a', 12399), ('b', 'a', 12400), ('p', 'a', 12401), ('h', 'i', 12402),
  ('b', 'i', 12403), ('p', 'i', 12404), ('h', 'u', 12405), ('b', 'u', 12406), ('p', 'u', 12407),
  ('h', 'e', 12408), ('b', 'e', 12409), ('p', 'e', 12410), ('h', 'o', 12411), ('b', 'o', 12412),
  ('p', 'o', 12413), ('m', 'a', 12414), ('m', 'i', 12415), ('m', 'u', 12416), ('m', 'e', 12417),
  ('m', 'o', 12418), ('y', 'A', 12419), ('y', 'a', 12420), ('y', 'U', 12421), ('y', 'u', 12422),
  ('y', 'O', 12423), ('y', 'o', 12424), ('r', 'a', 12425), ('r', 'i', 12426), ('r', 'u', 12427),
  ('r', 'e', 12428), ('r', 'o', 12429), ('w', 'A', 12430), ('w', 'a', 12431), ('w', 'i', 12432),
  ('w', 'e', 12433), ('w', 'o', 12434), ('n', '5', 12435), ('v', 'u', 12436), ('"', '5', 12443),
  ('0', '5', 12444), ('*', '5', 12445), ('+', '5', 12446)]

def katakanaDigraphs : List (Char × Char × Nat) := [
  ('a', '6', 12449), ('A', '6', 12450), ('i', '6', 12451), ('I', '6', 12452), ('u', '6', 12453),
  ('U', '6', 12454), ('e', '6', 12455), ('E', '6', 12456), ('o', '6', 12457), ('O', '6', 12458),
  ('K', 'a', 12459), ('G', 'a', 12460), ('K', 'i', 12461), ('G', 'i', 12462), ('K', 'u', 12463),
  ('G', 'u', 12464), ('K', 'e', 12465), ('G', 'e', 12466), ('K', 'o', 12467), ('G', 'o', 12468),
  ('S', 'a', 12469), ('Z', 'a', 12470), ('S', 'i', 12471), ('Z', 'i', 12472), ('S', 'u', 12473),
  ('Z', 'u', 12474), ('S', 'e', 12475), ('Z', 'e', 12476), ('S', 'o', 12477), ('Z', 'o', 12478),
  ('T', 'a', 12479), ('D', 'a', 12480), ('T', 'i', 12481), ('D', 'i', 12482), ('T', 'U', 12483),
  ('T', 'u', 12484), ('D', 'u', 12485), ('T', 'e', 12486), ('D', 'e', 12487), ('T', 'o', 12488),
  ('D', 'o', 12489), ('N', 'a', 12490), ('N', 'i', 12491), ('N', 'u', 12492), ('N', 'e', 12493),
  ('N', 'o', 12494), ('H', 'a', 12495), ('B', 'a', 12496), ('P', 'a', 12497), ('H', 'i', 12498),
  ('B', 'i', 12499), ('P', 'i', 12500), ('H', 'u', 12501), ('B', 'u', 12502), ('P', 'u', 12503),
  ('H', 'e', 12504), ('B', 'e', 12505), ('P', 'e', 12506), ('H', 'o', 12507), ('B', 'o', 12508),
  ('P', 'o', 12509), ('M', 'a', 12510), ('M', 'i', 12511), ('M', 'u', 12512), ('M', 'e', 12513),
  ('M', 'o', 12514), ('Y', 'A', 12515), ('Y', 'a', 12516), ('Y', 'U', 12517), ('Y', 'u', 12518),
  ('Y', 'O', 12519), ('Y', 'o', 12520), ('R', 'a', 12521), ('R', 'i', 12522), ('R', 'u', 12523),
  ('R', 'e', 12524), ('R', 'o', 12525), ('W', 'A', 12526), ('W', 'a', 12527), ('W', 'i', 12528),
  ('W', 'e', 12529), ('W', 'o', 12530), ('N', '6', 12531), ('V', 'u', 12532), ('K', 'A', 12533),
  ('K', 'E', 12534), ('V', 'a', 12535), ('V', 'i', 12536), ('V', 'e', 12537), ('V', 'o', 12538),
  ('.', '6', 12539), ('-', '6', 12540), ('*', '6', 12541), ('+', '6', 12542)]

def bopomofoDigraphs : List (Char × Char × Nat) := [
  ('b', '4', 12549), ('p', '4', 12550), ('m', '4', 12551), ('f', '4', 12552), ('d', '4', 12553),
  ('t', '4', 12554), ('n', '4', 12555), ('l', '4', 12556), ('g', '4', 12557), ('k', '4', 12558),
  ('h', '4', 12559), ('j', '4', 12560), ('q', '4', 12561), ('x', '4', 12562), ('z', 'h', 12563),
  ('c', 'h', 12564), ('s', 'h', 12565), ('r', '4', 12566), ('z', '4', 12567), ('c', '4', 12568),
  ('s', '4', 12569), ('a', '4', 12570), ('o', '4', 12571), ('e', '4', 12572), ('a', 'i', 12574),
  ('e', 'i', 12575), ('a', 'u', 12576), ('o', 'u', 12577), ('a', 'n', 12578), ('e', 'n', 12579),
  ('a', 'N', 12580), ('e', 'N', 12581), ('e', 'r', 12582), ('i', '4', 12583), ('u', '4', 12584),
  ('i', 'u', 12585), ('v', '4', 12586), ('n', 'G', 12587), ('g', 'n', 12588)]

def otherThirdDigraphs : List (Char × Char × Nat) := [
  ('1', 'c', 12832), ('2', 'c', 12833), ('3', 'c', 12834), ('4', 'c', 12835), ('5', 'c', 12836),
  ('6', 'c', 12837), ('7', 'c', 12838), ('8', 'c', 12839), ('9', 'c', 12840), ('f', 'f', 64256),
  ('f', 'i', 64257), ('f', 'l', 64258), ('f', 't', 64261), ('s', 't', 64262)]

/-- All groups. -/
def digraphSections : List DigraphSection := [
  ⟨none, basicDigraphs⟩,
  ⟨some "Latin supplement", latinSupplementDigraphs⟩,
  ⟨some "Greek and Coptic", greekAndCopticDigraphs⟩,
  ⟨some "Cyrillic", cyrillicDigraphs⟩,
  ⟨some "Hebrew", hebrewDigraphs⟩,
  ⟨some "Arabic", arabicDigraphs⟩,
  ⟨some "Latin extended", latinExtendedDigraphs⟩,
  ⟨some "Greek extended", greekExtendedDigraphs⟩,
  ⟨some "Punctuation", punctuationDigraphs⟩,
  ⟨some "Super- and subscripts", superAndSubscriptsDigraphs⟩,
  ⟨some "Currency", currencyDigraphs⟩,
  ⟨some "Other", otherDigraphs⟩,
  ⟨some "Roman numbers", romanNumbersDigraphs⟩,
  ⟨some "Arrows", arrowsDigraphs⟩,
  ⟨some "Mathematical operators", mathematicalOperatorsDigraphs⟩,
  ⟨some "Technical", technicalDigraphs⟩,
  ⟨some "Other", otherSecondDigraphs⟩,
  ⟨some "Box drawing", boxDrawingDigraphs⟩,
  ⟨some "Block elements", blockElementsDigraphs⟩,
  ⟨some "Geometric shapes", geometricShapesDigraphs⟩,
  ⟨some "Symbols", symbolsDigraphs⟩,
  ⟨some "Dingbats", dingbatsDigraphs⟩,
  ⟨some "CJK symbols and punctuation", cjkSymbolsAndPunctuationDigraphs⟩,
  ⟨some "Hiragana", hiraganaDigraphs⟩,
  ⟨some "Katakana", katakanaDigraphs⟩,
  ⟨some "Bopomofo", bopomofoDigraphs⟩,
  ⟨some "Other", otherThirdDigraphs⟩]

end ModalEdit
