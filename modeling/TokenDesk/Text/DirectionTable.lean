/-!
# Writing direction

The ranges of code points beyond ASCII by the direction in which they are written, in ascending
order. Characters in none of them are written from left to right. Characters that no domain name
keeps are not told apart from their neighbours.
-/

set_option autoImplicit false

namespace TokenDesk.Text

/-- Letters that are written from right to left. -/
def rightToLeftRanges : List (Nat × Nat) := [
  (1470, 1470), (1472, 1472), (1475, 1475), (1478, 1478), (1488, 1524), (1544, 1544),
  (1547, 1547), (1549, 1549), (1563, 1610), (1645, 1647), (1649, 1749), (1765, 1766),
  (1774, 1775), (1786, 1808), (1810, 1839), (1869, 1957), (1969, 2026), (2036, 2037),
  (2042, 2042), (2046, 2069), (2074, 2074), (2084, 2084), (2088, 2088), (2096, 2136),
  (2142, 2191), (2208, 2249), (8501, 8504), (64285, 64285), (64287, 64450), (64467, 64829),
  (64848, 64911), (64914, 64967), (65008, 65020), (65137, 65276), (67584, 67867), (67872, 68096),
  (68112, 68149), (68160, 68324), (68331, 68405), (68416, 68899), (68928, 68965), (68974, 69007),
  (69248, 69289), (69293, 69336), (69376, 69445), (69457, 69505), (69510, 69622),
  (124928, 125135), (125184, 125251), (125259, 126651)]

/-- Digits that go with Arabic letters. -/
def arabicDigitRanges : List (Nat × Nat) := [
  (1632, 1641), (1643, 1644), (68912, 68921), (69216, 69246)]

/-- Digits that go with letters of either direction. -/
def plainDigitRanges : List (Nat × Nat) := [
  (1776, 1785), (66273, 66299)]

/-- Characters that take the direction of those around them. -/
def neutralRanges : List (Nat × Nat) := [
  (161, 177), (182, 191), (215, 215), (247, 247), (319, 320), (697, 698), (706, 719), (722, 735),
  (741, 749), (751, 767), (884, 885), (903, 903), (1014, 1014), (1418, 1423), (1542, 1543),
  (1545, 1546), (1548, 1548), (1550, 1551), (1642, 1642), (1758, 1758), (1769, 1769),
  (2038, 2041), (2546, 2547), (2555, 2555), (2801, 2801), (3059, 3066), (3192, 3198),
  (3647, 3647), (3898, 3901), (5008, 5017), (5120, 5120), (5787, 5788), (6107, 6107),
  (6128, 6154), (6464, 6469), (6622, 6655), (6990, 6991), (7039, 7039), (8204, 8331),
  (8352, 8385), (8451, 8452), (8456, 8457), (8468, 8485), (8487, 8489), (8494, 8494),
  (8506, 8506), (8512, 8525), (8528, 8543), (8585, 9013), (9083, 9108), (9110, 9899),
  (9901, 10239), (10496, 11263), (11493, 11498), (11513, 11519), (11776, 11934), (11936, 12018),
  (12289, 12292), (12296, 12320), (12336, 12336), (12342, 12343), (12349, 12351), (12448, 12448),
  (12539, 12539), (12736, 12773), (12800, 12867), (12992, 13003), (13144, 13168), (13223, 13231),
  (13254, 13310), (19904, 19967), (42128, 42182), (42509, 42511), (42611, 42611), (42622, 42623),
  (42752, 42785), (42888, 42888), (43048, 43051), (43064, 43065), (43124, 43127), (43882, 43883),
  (64451, 64466), (64830, 64847), (64912, 64913), (64968, 64975), (65021, 65048), (65073, 65118),
  (65375, 65381), (65504, 65518), (65793, 65793), (65856, 65932), (65936, 65952), (67871, 67871),
  (68409, 68415), (69714, 69733), (70612, 70616), (71264, 71276), (72448, 72457), (72673, 72673),
  (73539, 73551), (73685, 73713), (93549, 93551), (94178, 94178), (117760, 118512),
  (119273, 119361), (119365, 119365), (119552, 119638), (120513, 120513), (120539, 120539),
  (120571, 120571), (120597, 120597), (120629, 120629), (120655, 120655), (120687, 120687),
  (120713, 120713), (120745, 120745), (120771, 120771), (123647, 123647), (124415, 124415),
  (126704, 127279), (127341, 127343), (127405, 127405), (127552, 127560), (127584, 130042)]

end TokenDesk.Text
