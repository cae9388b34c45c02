/-!
# Composition

The classes by which the marks on a letter are put in order, and the pairs of characters that make
one.
-/

set_option autoImplicit false

namespace TokenDesk.Text

/-- Rows 1 to 100 of the table. -/
def markRun0 : List (Nat × Nat × Nat) := [
  (768, 788, 230), (789, 789, 232), (790, 793, 220), (794, 794, 232), (795, 795, 216),
  (796, 800, 220), (801, 802, 202), (803, 806, 220), (807, 808, 202), (809, 819, 220),
  (820, 824, 1), (825, 828, 220), (829, 836, 230), (837, 837, 240), (838, 838, 230),
  (839, 841, 220), (842, 844, 230), (845, 846, 220), (848, 850, 230), (851, 854, 220),
  (855, 855, 230), (856, 856, 232), (857, 858, 220), (859, 859, 230), (860, 860, 233),
  (861, 862, 234), (863, 863, 233), (864, 865, 234), (866, 866, 233), (867, 879, 230),
  (1155, 1159, 230), (1425, 1425, 220), (1426, 1429, 230), (1430, 1430, 220), (1431, 1433, 230),
  (1434, 1434, 222), (1435, 1435, 220), (1436, 1441, 230), (1442, 1447, 220), (1448, 1449, 230),
  (1450, 1450, 220), (1451, 1452, 230), (1453, 1453, 222), (1454, 1454, 228), (1455, 1455, 230),
  (1456, 1456, 10), (1457, 1457, 11), (1458, 1458, 12), (1459, 1459, 13), (1460, 1460, 14),
  (1461, 1461, 15), (1462, 1462, 16), (1463, 1463, 17), (1464, 1464, 18), (1465, 1466, 19),
  (1467, 1467, 20), (1468, 1468, 21), (1469, 1469, 22), (1471, 1471, 23), (1473, 1473, 24),
  (1474, 1474, 25), (1476, 1476, 230), (1477, 1477, 220), (1479, 1479, 18), (1552, 1559, 230),
  (1560, 1560, 30), (1561, 1561, 31), (1562, 1562, 32), (1611, 1611, 27), (1612, 1612, 28),
  (1613, 1613, 29), (1614, 1614, 30), (1615, 1615, 31), (1616, 1616, 32), (1617, 1617, 33),
  (1618, 1618, 34), (1619, 1620, 230), (1621, 1622, 220), (1623, 1627, 230), (1628, 1628, 220),
  (1629, 1630, 230), (1631, 1631, 220), (1648, 1648, 35), (1750, 1756, 230), (1759, 1762, 230),
  (1763, 1763, 220), (1764, 1764, 230), (1767, 1768, 230), (1770, 1770, 220), (1771, 1772, 230),
  (1773, 1773, 220), (1809, 1809, 36), (1840, 1840, 230), (1841, 1841, 220), (1842, 1843, 230),
  (1844, 1844, 220), (1845, 1846, 230), (1847, 1849, 220), (1850, 1850, 230), (1851, 1852, 220)]

/-- Rows 101 to 200 of the table. -/
def markRun1 : List (Nat × Nat × Nat) := [
  (1853, 1853, 230), (1854, 1854, 220), (1855, 1857, 230), (1858, 1858, 220), (1859, 1859, 230),
  (1860, 1860, 220), (1861, 1861, 230), (1862, 1862, 220), (1863, 1863, 230), (1864, 1864, 220),
  (1865, 1866, 230), (2027, 2033, 230), (2034, 2034, 220), (2035, 2035, 230), (2045, 2045, 220),
  (2070, 2073, 230), (2075, 2083, 230), (2085, 2087, 230), (2089, 2093, 230), (2137, 2139, 220),
  (2199, 2200, 230), (2201, 2203, 220), (2204, 2207, 230), (2250, 2254, 230), (2255, 2259, 220),
  (2260, 2273, 230), (2275, 2275, 220), (2276, 2277, 230), (2278, 2278, 220), (2279, 2280, 230),
  (2281, 2281, 220), (2282, 2284, 230), (2285, 2287, 220), (2288, 2288, 27), (2289, 2289, 28),
  (2290, 2290, 29), (2291, 2293, 230), (2294, 2294, 220), (2295, 2296, 230), (2297, 2298, 220),
  (2299, 2303, 230), (2364, 2364, 7), (2381, 2381, 9), (2385, 2385, 230), (2386, 2386, 220),
  (2387, 2388, 230), (2492, 2492, 7), (2509, 2509, 9), (2558, 2558, 230), (2620, 2620, 7),
  (2637, 2637, 9), (2748, 2748, 7), (2765, 2765, 9), (2876, 2876, 7), (2893, 2893, 9),
  (3021, 3021, 9), (3132, 3132, 7), (3149, 3149, 9), (3157, 3157, 84), (3158, 3158, 91),
  (3260, 3260, 7), (3277, 3277, 9), (3387, 3388, 9), (3405, 3405, 9), (3530, 3530, 9),
  (3640, 3641, 103), (3642, 3642, 9), (3656, 3659, 107), (3768, 3769, 118), (3770, 3770, 9),
  (3784, 3787, 122), (3790, 3790, 122), (3864, 3865, 220), (3893, 3893, 220), (3895, 3895, 220),
  (3897, 3897, 216), (3953, 3953, 129), (3954, 3954, 130), (3956, 3956, 132), (3962, 3965, 130),
  (3968, 3968, 130), (3970, 3971, 230), (3972, 3972, 9), (3974, 3975, 230), (4038, 4038, 220),
  (4151, 4151, 7), (4153, 4154, 9), (4237, 4237, 220), (4957, 4959, 230), (5908, 5909, 9),
  (5940, 5940, 9), (6098, 6098, 9), (6109, 6109, 230), (6313, 6313, 228), (6457, 6457, 222),
  (6458, 6458, 230), (6459, 6459, 220), (6679, 6679, 230), (6680, 6680, 220), (6752, 6752, 9)]

/-- Rows 201 to 300 of the table. -/
def markRun2 : List (Nat × Nat × Nat) := [
  (6773, 6780, 230), (6783, 6783, 220), (6832, 6836, 230), (6837, 6842, 220), (6843, 6844, 230),
  (6845, 6845, 220), (6847, 6848, 220), (6849, 6850, 230), (6851, 6852, 220), (6853, 6857, 230),
  (6858, 6858, 220), (6859, 6891, 230), (6964, 6964, 7), (6980, 6980, 9), (7019, 7019, 230),
  (7020, 7020, 220), (7021, 7027, 230), (7082, 7083, 9), (7142, 7142, 7), (7154, 7155, 9),
  (7223, 7223, 7), (7376, 7378, 230), (7380, 7380, 1), (7381, 7385, 220), (7386, 7387, 230),
  (7388, 7391, 220), (7392, 7392, 230), (7394, 7400, 1), (7405, 7405, 220), (7412, 7412, 230),
  (7416, 7417, 230), (7616, 7617, 230), (7618, 7618, 220), (7619, 7625, 230), (7626, 7626, 220),
  (7627, 7628, 230), (7629, 7629, 234), (7630, 7630, 214), (7631, 7631, 220), (7632, 7632, 202),
  (7633, 7669, 230), (7670, 7670, 232), (7671, 7672, 228), (7673, 7673, 220), (7674, 7674, 218),
  (7675, 7675, 230), (7676, 7676, 233), (7677, 7677, 220), (7678, 7678, 230), (7679, 7679, 220),
  (8400, 8401, 230), (8402, 8403, 1), (8404, 8407, 230), (8408, 8410, 1), (8411, 8412, 230),
  (8417, 8417, 230), (8421, 8422, 1), (8423, 8423, 230), (8424, 8424, 220), (8425, 8425, 230),
  (8426, 8427, 1), (8428, 8431, 220), (8432, 8432, 230), (11503, 11505, 230), (11647, 11647, 9),
  (11744, 11775, 230), (12330, 12330, 218), (12331, 12331, 228), (12332, 12332, 232),
  (12333, 12333, 222), (12334, 12335, 224), (12441, 12442, 8), (42607, 42607, 230),
  (42612, 42621, 230), (42654, 42655, 230), (42736, 42737, 230), (43014, 43014, 9),
  (43052, 43052, 9), (43204, 43204, 9), (43232, 43249, 230), (43307, 43309, 220),
  (43347, 43347, 9), (43443, 43443, 7), (43456, 43456, 9), (43696, 43696, 230),
  (43698, 43699, 230), (43700, 43700, 220), (43703, 43704, 230), (43710, 43711, 230),
  (43713, 43713, 230), (43766, 43766, 9), (44013, 44013, 9), (64286, 64286, 26),
  (65056, 65062, 230), (65063, 65069, 220), (65070, 65071, 230), (66045, 66045, 220),
  (66272, 66272, 220), (66422, 66426, 230), (68109, 68109, 220)]

/-- Rows 301 to 394 of the table. -/
def markRun3 : List (Nat × Nat × Nat) := [
  (68111, 68111, 230), (68152, 68152, 230), (68153, 68153, 1), (68154, 68154, 220),
  (68159, 68159, 9), (68325, 68325, 230), (68326, 68326, 220), (68900, 68903, 230),
  (68969, 68973, 230), (69291, 69292, 230), (69370, 69375, 220), (69446, 69447, 220),
  (69448, 69450, 230), (69451, 69451, 220), (69452, 69452, 230), (69453, 69456, 220),
  (69506, 69506, 230), (69507, 69507, 220), (69508, 69508, 230), (69509, 69509, 220),
  (69702, 69702, 9), (69744, 69744, 9), (69759, 69759, 9), (69817, 69817, 9), (69818, 69818, 7),
  (69888, 69890, 230), (69939, 69940, 9), (70003, 70003, 7), (70080, 70080, 9), (70090, 70090, 7),
  (70197, 70197, 9), (70198, 70198, 7), (70377, 70377, 7), (70378, 70378, 9), (70459, 70460, 7),
  (70477, 70477, 9), (70502, 70516, 230), (70606, 70608, 9), (70625, 70626, 230),
  (70722, 70722, 9), (70726, 70726, 7), (70750, 70750, 230), (70850, 70850, 9), (70851, 70851, 7),
  (71103, 71103, 9), (71104, 71104, 7), (71231, 71231, 9), (71350, 71350, 9), (71351, 71351, 7),
  (71467, 71467, 9), (71737, 71737, 9), (71738, 71738, 7), (71997, 71998, 9), (72003, 72003, 7),
  (72160, 72160, 9), (72244, 72244, 9), (72263, 72263, 9), (72345, 72345, 9), (72767, 72767, 9),
  (73026, 73026, 7), (73028, 73029, 9), (73111, 73111, 9), (73537, 73538, 9), (90415, 90415, 9),
  (92912, 92916, 1), (92976, 92982, 230), (94192, 94193, 6), (113822, 113822, 1),
  (119141, 119142, 216), (119143, 119145, 1), (119149, 119149, 226), (119150, 119154, 216),
  (119163, 119170, 220), (119173, 119177, 230), (119178, 119179, 220), (119210, 119213, 230),
  (119362, 119364, 230), (122880, 122922, 230), (123023, 123023, 230), (123184, 123190, 230),
  (123566, 123566, 230), (123628, 123631, 230), (124140, 124141, 232), (124142, 124142, 220),
  (124143, 124143, 230), (124398, 124398, 230), (124399, 124399, 220), (124643, 124643, 230),
  (124646, 124646, 230), (124654, 124655, 230), (124661, 124661, 230), (125136, 125142, 220),
  (125252, 125257, 230), (125258, 125258, 7)]

/-- Runs of marks, by first, last and class, in ascending order. -/
def markRuns : List (List (Nat × Nat × Nat)) :=
  [markRun0, markRun1, markRun2, markRun3]

/-- For each character that joins one before it into one character, those that it joins. -/
def composingRows : List (Nat × List Nat) := [
  (768, [65, 69, 73, 78, 79, 85, 87, 89, 97, 101, 105, 110, 111, 117, 119, 121, 168, 194, 202,
    212, 220, 226, 234, 244, 252, 258, 259, 274, 275, 332, 333, 416, 417, 431, 432, 913, 917, 919,
    921, 927, 933, 937, 945, 949, 951, 953, 959, 965, 969, 970, 971, 1045, 1048, 1077, 1080, 7936,
    7937, 7944, 7945, 7952, 7953, 7960, 7961, 7968, 7969, 7976, 7977, 7984, 7985, 7992, 7993,
    8000, 8001, 8008, 8009, 8016, 8017, 8025, 8032, 8033, 8040, 8041, 8127, 8190]),
  (769, [65, 67, 69, 71, 73, 75, 76, 77, 78, 79, 80, 82, 83, 85, 87, 89, 90, 97, 99, 101, 103,
    105, 107, 108, 109, 110, 111, 112, 114, 115, 117, 119, 121, 122, 168, 194, 197, 198, 199, 202,
    207, 212, 213, 216, 220, 226, 229, 230, 231, 234, 239, 244, 245, 248, 252, 258, 259, 274, 275,
    332, 333, 360, 361, 416, 417, 431, 432, 913, 917, 919, 921, 927, 933, 937, 945, 949, 951, 953,
    959, 965, 969, 970, 971, 978, 1043, 1050, 1075, 1082, 7936, 7937, 7944, 7945, 7952, 7953,
    7960, 7961, 7968, 7969, 7976, 7977, 7984, 7985, 7992, 7993, 8000, 8001, 8008, 8009, 8016,
    8017, 8025, 8032, 8033, 8040, 8041, 8127, 8190]),
  (770, [65, 67, 69, 71, 72, 73, 74, 79, 83, 85, 87, 89, 90, 97, 99, 101, 103, 104, 105, 106, 111,
    115, 117, 119, 121, 122, 7840, 7841, 7864, 7865, 7884, 7885]),
  (771, [65, 69, 73, 78, 79, 85, 86, 89, 97, 101, 105, 110, 111, 117, 118, 121, 194, 202, 212,
    226, 234, 244, 258, 259, 416, 417, 431, 432]),
  (772, [65, 69, 71, 73, 79, 85, 89, 97, 101, 103, 105, 111, 117, 121, 196, 198, 213, 214, 220,
    228, 230, 245, 246, 252, 490, 491, 550, 551, 558, 559, 913, 921, 933, 945, 953, 965, 1048,
    1059, 1080, 1091, 7734, 7735, 7770, 7771]),
  (774, [65, 69, 71, 73, 79, 85, 97, 101, 103, 105, 111, 117, 552, 553, 913, 921, 933, 945, 953,
    965, 1040, 1045, 1046, 1048, 1059, 1072, 1077, 1078, 1080, 1091, 7840, 7841]),
  (775, [65, 66, 67, 68, 69, 70, 71, 72, 73, 77, 78, 79, 80, 82, 83, 84, 87, 88, 89, 90, 97, 98,
    99, 100, 101, 102, 103, 104, 109, 110, 111, 112, 114, 115, 116, 119, 120, 121, 122, 346, 347,
    352, 353, 383, 7778, 7779]),
  (776, [65, 69, 72, 73, 79, 85, 87, 88, 89, 97, 101, 104, 105, 111, 116, 117, 119, 120, 121, 213,
    245, 362, 363, 921, 933, 953, 965, 978, 1030, 1040, 1045, 1046, 1047, 1048, 1054, 1059, 1063,
    1067, 1069, 1072, 1077, 1078, 1079, 1080, 1086, 1091, 1095, 1099, 1101, 1110, 1240, 1241,
    1256, 1257]),
  (777, [65, 69, 73, 79, 85, 89, 97, 101, 105, 111, 117, 121, 194, 202, 212, 226, 234, 244, 258,
    259, 416, 417, 431, 432]),
  (778, [65, 85, 97, 117, 119, 121]),
  (779, [79, 85, 111, 117, 1059, 1091]),
  (780, [65, 67, 68, 69, 71, 72, 73, 75, 76, 78, 79, 82, 83, 84, 85, 90, 97, 99, 100, 101, 103,
    104, 105, 106, 107, 108, 110, 111, 114, 115, 116, 117, 122, 220, 252, 439, 658]),
  (783, [65, 69, 73, 79, 82, 85, 97, 101, 105, 111, 114, 117, 1140, 1141]),
  (785, [65, 69, 73, 79, 82, 85, 97, 101, 105, 111, 114, 117]),
  (787, [913, 917, 919, 921, 927, 937, 945, 949, 951, 953, 959, 961, 965, 969]),
  (788, [913, 917, 919, 921, 927, 929, 933, 937, 945, 949, 951, 953, 959, 961, 965, 969]),
  (795, [79, 85, 111, 117]),
  (803, [65, 66, 68, 69, 72, 73, 75, 76, 77, 78, 79, 82, 83, 84, 85, 86, 87, 89, 90, 97, 98, 100,
    101, 104, 105, 107, 108, 109, 110, 111, 114, 115, 116, 117, 118, 119, 121, 122, 416, 417, 431,
    432]),
  (804, [85, 117]),
  (805, [65, 97]),
  (806, [83, 84, 115, 116]),
  (807, [67, 68, 69, 71, 72, 75, 76, 78, 82, 83, 84, 99, 100, 101, 103, 104, 107, 108, 110, 114,
    115, 116]),
  (808, [65, 69, 73, 79, 85, 97, 101, 105, 111, 117]),
  (813, [68, 69, 76, 78, 84, 85, 100, 101, 108, 110, 116, 117]),
  (814, [72, 104]),
  (816, [69, 73, 85, 101, 105, 117]),
  (817, [66, 68, 75, 76, 78, 82, 84, 90, 98, 100, 104, 107, 108, 110, 114, 116, 122]),
  (824, [60, 61, 62, 8592, 8594, 8596, 8656, 8658, 8660, 8707, 8712, 8715, 8739, 8741, 8764, 8771,
    8773, 8776, 8781, 8801, 8804, 8805, 8818, 8819, 8822, 8823, 8826, 8827, 8828, 8829, 8834,
    8835, 8838, 8839, 8849, 8850, 8866, 8872, 8873, 8875, 8882, 8883, 8884, 8885]),
  (834, [168, 945, 951, 953, 965, 969, 970, 971, 7936, 7937, 7944, 7945, 7968, 7969, 7976, 7977,
    7984, 7985, 7992, 7993, 8016, 8017, 8025, 8032, 8033, 8040, 8041, 8127, 8190]),
  (837, [913, 919, 937, 940, 942, 945, 951, 969, 974, 7936, 7937, 7938, 7939, 7940, 7941, 7942,
    7943, 7944, 7945, 7946, 7947, 7948, 7949, 7950, 7951, 7968, 7969, 7970, 7971, 7972, 7973,
    7974, 7975, 7976, 7977, 7978, 7979, 7980, 7981, 7982, 7983, 8032, 8033, 8034, 8035, 8036,
    8037, 8038, 8039, 8040, 8041, 8042, 8043, 8044, 8045, 8046, 8047, 8048, 8052, 8060, 8118,
    8134, 8182]),
  (1619, [1575]),
  (1620, [1575, 1608, 1610, 1729, 1746, 1749]),
  (1621, [1575]),
  (2364, [2344, 2352, 2355]),
  (2494, [2503]),
  (2519, [2503]),
  (2878, [2887]),
  (2902, [2887]),
  (2903, [2887]),
  (3006, [3014, 3015]),
  (3031, [2962, 3014]),
  (3158, [3142]),
  (3266, [3270]),
  (3285, [3263, 3270, 3274]),
  (3286, [3270]),
  (3390, [3398, 3399]),
  (3415, [3398]),
  (3530, [3545, 3548]),
  (3535, [3545]),
  (3551, [3545]),
  (4142, [4133]),
  (6965, [6917, 6919, 6921, 6923, 6925, 6929, 6970, 6972, 6974, 6975, 6978]),
  (12441, [12358, 12363, 12365, 12367, 12369, 12371, 12373, 12375, 12377, 12379, 12381, 12383,
    12385, 12388, 12390, 12392, 12399, 12402, 12405, 12408, 12411, 12445, 12454, 12459, 12461,
    12463, 12465, 12467, 12469, 12471, 12473, 12475, 12477, 12479, 12481, 12484, 12486, 12488,
    12495, 12498, 12501, 12504, 12507, 12527, 12528, 12529, 12530, 12541]),
  (12442, [12399, 12402, 12405, 12408, 12411, 12495, 12498, 12501, 12504, 12507]),
  (69818, [69785, 69787, 69797]),
  (69927, [69937, 69938]),
  (70462, [70471]),
  (70487, [70471]),
  (70832, [70841]),
  (70842, [70841]),
  (70845, [70841]),
  (71087, [71096, 71097]),
  (71984, [71989])]

end TokenDesk.Text
