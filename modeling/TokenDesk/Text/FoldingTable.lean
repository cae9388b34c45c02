/-!
# Compatibility folding

What characters beyond ASCII are folded to in names that are compared without letter case and
without compatibility variants. Foldings to ASCII are given in full; of the others only which
characters have one. Characters whose folding holds a blank or a mark of a URL are left out.
-/

set_option autoImplicit false

namespace TokenDesk.Text

/-- Rows 1 to 100 of the table. -/
def foldedRun0 : List (Nat × Nat × Char) := [
  (160, 160, ' '), (170, 170, 'a'), (178, 179, '2'), (185, 185, '1'), (186, 186, 'o'),
  (383, 383, 's'), (688, 688, 'h'), (690, 690, 'j'), (691, 691, 'r'), (695, 695, 'w'),
  (696, 696, 'y'), (737, 737, 'l'), (738, 738, 's'), (739, 739, 'x'), (894, 894, ';'),
  (7468, 7468, 'a'), (7470, 7470, 'b'), (7472, 7473, 'd'), (7475, 7482, 'g'), (7484, 7484, 'o'),
  (7486, 7486, 'p'), (7487, 7487, 'r'), (7488, 7489, 't'), (7490, 7490, 'w'), (7491, 7491, 'a'),
  (7495, 7495, 'b'), (7496, 7497, 'd'), (7501, 7501, 'g'), (7503, 7503, 'k'), (7504, 7504, 'm'),
  (7506, 7506, 'o'), (7510, 7510, 'p'), (7511, 7512, 't'), (7515, 7515, 'v'), (7522, 7522, 'i'),
  (7523, 7523, 'r'), (7524, 7525, 'u'), (7580, 7580, 'c'), (7584, 7584, 'f'), (7611, 7611, 'z'),
  (8175, 8175, '`'), (8192, 8192, ' '), (8193, 8193, ' '), (8194, 8194, ' '), (8195, 8195, ' '),
  (8196, 8196, ' '), (8197, 8197, ' '), (8198, 8198, ' '), (8199, 8199, ' '), (8200, 8200, ' '),
  (8201, 8201, ' '), (8202, 8202, ' '), (8239, 8239, ' '), (8287, 8287, ' '), (8304, 8304, '0'),
  (8305, 8305, 'i'), (8308, 8313, '4'), (8314, 8314, '+'), (8316, 8316, '='), (8317, 8318, '('),
  (8319, 8319, 'n'), (8320, 8329, '0'), (8330, 8330, '+'), (8332, 8332, '='), (8333, 8334, '('),
  (8336, 8336, 'a'), (8337, 8337, 'e'), (8338, 8338, 'o'), (8339, 8339, 'x'), (8341, 8341, 'h'),
  (8342, 8345, 'k'), (8346, 8346, 'p'), (8347, 8348, 's'), (8450, 8450, 'c'), (8458, 8459, 'g'),
  (8460, 8460, 'h'), (8461, 8461, 'h'), (8462, 8462, 'h'), (8464, 8464, 'i'), (8465, 8465, 'i'),
  (8466, 8466, 'l'), (8467, 8467, 'l'), (8469, 8469, 'n'), (8473, 8475, 'p'), (8476, 8476, 'r'),
  (8477, 8477, 'r'), (8484, 8484, 'z'), (8488, 8488, 'z'), (8490, 8490, 'k'), (8492, 8493, 'b'),
  (8495, 8495, 'e'), (8496, 8497, 'e'), (8499, 8499, 'm'), (8500, 8500, 'o'), (8505, 8505, 'i'),
  (8517, 8517, 'd'), (8518, 8519, 'd'), (8520, 8521, 'i'), (8544, 8544, 'i'), (8548, 8548, 'v')]

/-- Rows 101 to 200 of the table. -/
def foldedRun1 : List (Nat × Nat × Char) := [
  (8553, 8553, 'x'), (8556, 8556, 'l'), (8557, 8558, 'c'), (8559, 8559, 'm'), (8560, 8560, 'i'),
  (8564, 8564, 'v'), (8569, 8569, 'x'), (8572, 8572, 'l'), (8573, 8574, 'c'), (8575, 8575, 'm'),
  (9312, 9320, '1'), (9398, 9423, 'a'), (9424, 9449, 'a'), (9450, 9450, '0'), (11388, 11388, 'j'),
  (11389, 11389, 'v'), (12288, 12288, ' '), (12290, 12290, '.'), (42993, 42993, 's'),
  (42994, 42994, 'c'), (42995, 42995, 'f'), (42996, 42996, 'q'), (64297, 64297, '+'),
  (65040, 65040, ','), (65043, 65044, ':'), (65045, 65045, '!'), (65046, 65046, '?'),
  (65075, 65075, '_'), (65076, 65076, '_'), (65077, 65078, '('), (65079, 65079, '{'),
  (65080, 65080, '}'), (65095, 65095, '['), (65096, 65096, ']'), (65101, 65101, '_'),
  (65102, 65102, '_'), (65103, 65103, '_'), (65104, 65104, ','), (65108, 65108, ';'),
  (65109, 65109, ':'), (65110, 65110, '?'), (65111, 65111, '!'), (65113, 65114, '('),
  (65115, 65115, '{'), (65116, 65116, '}'), (65119, 65119, '#'), (65120, 65120, '&'),
  (65121, 65122, '*'), (65123, 65123, '-'), (65124, 65124, '<'), (65125, 65125, '>'),
  (65126, 65126, '='), (65128, 65128, '\\'), (65129, 65130, '$'), (65131, 65131, '@'),
  (65281, 65312, '!'), (65313, 65338, 'a'), (65339, 65374, '['), (65377, 65377, '.'),
  (67493, 67493, 'q'), (117974, 117999, 'a'), (118000, 118009, '0'), (119808, 119833, 'a'),
  (119834, 119859, 'a'), (119860, 119885, 'a'), (119886, 119892, 'a'), (119894, 119911, 'i'),
  (119912, 119937, 'a'), (119938, 119963, 'a'), (119964, 119964, 'a'), (119966, 119967, 'c'),
  (119970, 119970, 'g'), (119973, 119974, 'j'), (119977, 119980, 'n'), (119982, 119989, 's'),
  (119990, 119993, 'a'), (119995, 119995, 'f'), (119997, 120003, 'h'), (120005, 120015, 'p'),
  (120016, 120041, 'a'), (120042, 120067, 'a'), (120068, 120069, 'a'), (120071, 120074, 'd'),
  (120077, 120084, 'j'), (120086, 120092, 's'), (120094, 120119, 'a'), (120120, 120121, 'a'),
  (120123, 120126, 'd'), (120128, 120132, 'i'), (120134, 120134, 'o'), (120138, 120144, 's'),
  (120146, 120171, 'a'), (120172, 120197, 'a'), (120198, 120223, 'a'), (120224, 120249, 'a'),
  (120250, 120275, 'a'), (120276, 120301, 'a'), (120302, 120327, 'a'), (120328, 120353, 'a'),
  (120354, 120379, 'a')]

/-- Rows 201 to 213 of the table. -/
def foldedRun2 : List (Nat × Nat × Char) := [
  (120380, 120405, 'a'), (120406, 120431, 'a'), (120432, 120457, 'a'), (120458, 120483, 'a'),
  (120782, 120791, '0'), (120792, 120801, '0'), (120802, 120811, '0'), (120812, 120821, '0'),
  (120822, 120831, '0'), (127275, 127275, 'c'), (127276, 127276, 'r'), (127280, 127305, 'a'),
  (130032, 130041, '0')]

/-- Runs of characters, from the first to the last, that fold to one ASCII character each; the first
of a run folds to the one given, and those after it to the ones after that. -/
def foldedRuns : List (List (Nat × Nat × Char)) :=
  [foldedRun0, foldedRun1, foldedRun2]

/-- Rows 1 to 100 of the table. -/
def foldedText0 : List (Nat × String) := [
  (306, "ij"), (307, "ij"), (455, "lj"), (456, "lj"), (457, "lj"), (458, "nj"), (459, "nj"),
  (460, "nj"), (497, "dz"), (498, "dz"), (499, "dz"), (8252, "!!"), (8360, "rs"), (8470, "no"),
  (8480, "sm"), (8481, "tel"), (8482, "tm"), (8507, "fax"), (8545, "ii"), (8546, "iii"),
  (8547, "iv"), (8549, "vi"), (8550, "vii"), (8551, "viii"), (8552, "ix"), (8554, "xi"),
  (8555, "xii"), (8561, "ii"), (8562, "iii"), (8563, "iv"), (8565, "vi"), (8566, "vii"),
  (8567, "viii"), (8568, "ix"), (8570, "xi"), (8571, "xii"), (9321, "10"), (9322, "11"),
  (9323, "12"), (9324, "13"), (9325, "14"), (9326, "15"), (9327, "16"), (9328, "17"),
  (9329, "18"), (9330, "19"), (9331, "20"), (9332, "(1)"), (9333, "(2)"), (9334, "(3)"),
  (9335, "(4)"), (9336, "(5)"), (9337, "(6)"), (9338, "(7)"), (9339, "(8)"), (9340, "(9)"),
  (9341, "(10)"), (9342, "(11)"), (9343, "(12)"), (9344, "(13)"), (9345, "(14)"), (9346, "(15)"),
  (9347, "(16)"), (9348, "(17)"), (9349, "(18)"), (9350, "(19)"), (9351, "(20)"), (9372, "(a)"),
  (9373, "(b)"), (9374, "(c)"), (9375, "(d)"), (9376, "(e)"), (9377, "(f)"), (9378, "(g)"),
  (9379, "(h)"), (9380, "(i)"), (9381, "(j)"), (9382, "(k)"), (9383, "(l)"), (9384, "(m)"),
  (9385, "(n)"), (9386, "(o)"), (9387, "(p)"), (9388, "(q)"), (9389, "(r)"), (9390, "(s)"),
  (9391, "(t)"), (9392, "(u)"), (9393, "(v)"), (9394, "(w)"), (9395, "(x)"), (9396, "(y)"),
  (9397, "(z)"), (10869, "=="), (10870, "==="), (12880, "pte"), (12881, "21"), (12882, "22"),
  (12883, "23"), (12884, "24")]

/-- Rows 101 to 200 of the table. -/
def foldedText1 : List (Nat × String) := [
  (12885, "25"), (12886, "26"), (12887, "27"), (12888, "28"), (12889, "29"), (12890, "30"),
  (12891, "31"), (12892, "32"), (12893, "33"), (12894, "34"), (12895, "35"), (12977, "36"),
  (12978, "37"), (12979, "38"), (12980, "39"), (12981, "40"), (12982, "41"), (12983, "42"),
  (12984, "43"), (12985, "44"), (12986, "45"), (12987, "46"), (12988, "47"), (12989, "48"),
  (12990, "49"), (12991, "50"), (13004, "hg"), (13005, "erg"), (13006, "ev"), (13007, "ltd"),
  (13169, "hpa"), (13170, "da"), (13171, "au"), (13172, "bar"), (13173, "ov"), (13174, "pc"),
  (13175, "dm"), (13176, "dm2"), (13177, "dm3"), (13178, "iu"), (13184, "pa"), (13185, "na"),
  (13187, "ma"), (13188, "ka"), (13189, "kb"), (13190, "mb"), (13191, "gb"), (13192, "cal"),
  (13193, "kcal"), (13194, "pf"), (13195, "nf"), (13198, "mg"), (13199, "kg"), (13200, "hz"),
  (13201, "khz"), (13202, "mhz"), (13203, "ghz"), (13204, "thz"), (13206, "ml"), (13207, "dl"),
  (13208, "kl"), (13209, "fm"), (13210, "nm"), (13212, "mm"), (13213, "cm"), (13214, "km"),
  (13215, "mm2"), (13216, "cm2"), (13217, "m2"), (13218, "km2"), (13219, "mm3"), (13220, "cm3"),
  (13221, "m3"), (13222, "km3"), (13225, "pa"), (13226, "kpa"), (13227, "mpa"), (13228, "gpa"),
  (13229, "rad"), (13232, "ps"), (13233, "ns"), (13235, "ms"), (13236, "pv"), (13237, "nv"),
  (13239, "mv"), (13240, "kv"), (13241, "mv"), (13242, "pw"), (13243, "nw"), (13245, "mw"),
  (13246, "kw"), (13247, "mw"), (13251, "bq"), (13252, "cc"), (13253, "cd"), (13256, "db"),
  (13257, "gy"), (13258, "ha"), (13259, "hp"), (13260, "in")]

/-- Rows 201 to 272 of the table. -/
def foldedText2 : List (Nat × String) := [
  (13261, "kk"), (13262, "km"), (13263, "kt"), (13264, "lm"), (13265, "ln"), (13266, "log"),
  (13267, "lx"), (13268, "mb"), (13269, "mil"), (13270, "mol"), (13271, "ph"), (13273, "ppm"),
  (13274, "pr"), (13275, "sr"), (13276, "sv"), (13277, "wb"), (13311, "gal"), (64256, "ff"),
  (64257, "fi"), (64258, "fl"), (64259, "ffi"), (64260, "ffl"), (64261, "st"), (64262, "st"),
  (127233, "0,"), (127234, "1,"), (127235, "2,"), (127236, "3,"), (127237, "4,"), (127238, "5,"),
  (127239, "6,"), (127240, "7,"), (127241, "8,"), (127242, "9,"), (127248, "(a)"),
  (127249, "(b)"), (127250, "(c)"), (127251, "(d)"), (127252, "(e)"), (127253, "(f)"),
  (127254, "(g)"), (127255, "(h)"), (127256, "(i)"), (127257, "(j)"), (127258, "(k)"),
  (127259, "(l)"), (127260, "(m)"), (127261, "(n)"), (127262, "(o)"), (127263, "(p)"),
  (127264, "(q)"), (127265, "(r)"), (127266, "(s)"), (127267, "(t)"), (127268, "(u)"),
  (127269, "(v)"), (127270, "(w)"), (127271, "(x)"), (127272, "(y)"), (127273, "(z)"),
  (127277, "cd"), (127278, "wz"), (127306, "hv"), (127307, "mv"), (127308, "sd"), (127309, "ss"),
  (127310, "ppv"), (127311, "wc"), (127338, "mc"), (127339, "md"), (127340, "mr"), (127376, "dj")]

/-- Characters that fold to several of ASCII. -/
def foldedTexts : List (List (Nat × String)) :=
  [foldedText0, foldedText1, foldedText2]

/-- Rows 1 to 100 of the table. -/
def alteredRun0 : List (Nat × Nat × Nat) := [
  (181, 181, 1), (188, 190, 1), (192, 214, 1), (216, 222, 1), (256, 304, 2), (308, 310, 2),
  (313, 319, 2), (320, 321, 1), (323, 329, 2), (330, 376, 2), (377, 381, 2), (385, 386, 1),
  (388, 390, 2), (391, 393, 2), (394, 395, 1), (398, 401, 1), (403, 404, 1), (406, 408, 1),
  (412, 413, 1), (415, 416, 1), (418, 422, 2), (423, 425, 2), (428, 430, 2), (431, 433, 2),
  (434, 435, 1), (437, 439, 2), (440, 440, 1), (444, 444, 1), (452, 461, 1), (463, 475, 2),
  (478, 494, 2), (500, 502, 2), (503, 504, 1), (506, 562, 2), (570, 571, 1), (573, 574, 1),
  (577, 579, 2), (580, 582, 1), (584, 590, 2), (689, 694, 1), (736, 740, 1), (832, 833, 1),
  (835, 837, 1), (880, 886, 2), (895, 911, 1), (913, 939, 1), (975, 982, 1), (984, 1008, 2),
  (1009, 1010, 1), (1012, 1013, 1), (1015, 1017, 2), (1018, 1018, 1), (1021, 1071, 1),
  (1120, 1152, 2), (1162, 1216, 2), (1217, 1229, 2), (1232, 1326, 2), (1329, 1366, 1),
  (1415, 1415, 1), (1653, 1656, 1), (2392, 2399, 1), (2524, 2527, 1), (2611, 2611, 1),
  (2614, 2614, 1), (2649, 2651, 1), (2654, 2654, 1), (2908, 2909, 1), (3635, 3635, 1),
  (3763, 3763, 1), (3804, 3805, 1), (3852, 3852, 1), (3907, 3907, 1), (3917, 3917, 1),
  (3922, 3922, 1), (3927, 3927, 1), (3932, 3932, 1), (3945, 3945, 1), (3955, 3957, 2),
  (3958, 3961, 1), (3969, 3969, 1), (3987, 3987, 1), (3997, 3997, 1), (4002, 4002, 1),
  (4007, 4007, 1), (4012, 4012, 1), (4025, 4025, 1), (4256, 4301, 1), (4348, 4348, 1),
  (5112, 5117, 1), (7296, 7305, 1), (7312, 7359, 1), (7469, 7469, 1), (7474, 7474, 1),
  (7485, 7500, 1), (7505, 7530, 1), (7544, 7544, 1), (7579, 7615, 1), (7680, 7828, 2),
  (7834, 7835, 1), (7838, 7934, 2)]

/-- Rows 101 to 200 of the table. -/
def alteredRun1 : List (Nat × Nat × Nat) := [
  (7944, 7951, 1), (7960, 7965, 1), (7976, 7983, 1), (7992, 7999, 1), (8008, 8013, 1),
  (8025, 8031, 1), (8040, 8047, 1), (8049, 8061, 2), (8064, 8111, 1), (8114, 8116, 1),
  (8119, 8132, 1), (8135, 8140, 1), (8147, 8147, 1), (8152, 8155, 1), (8163, 8163, 1),
  (8168, 8180, 1), (8183, 8188, 1), (8209, 8209, 1), (8243, 8244, 1), (8246, 8247, 1),
  (8279, 8279, 1), (8315, 8340, 1), (8451, 8451, 1), (8455, 8457, 2), (8463, 8463, 1),
  (8486, 8486, 1), (8491, 8491, 1), (8498, 8504, 1), (8508, 8512, 1), (8528, 8543, 1),
  (8579, 8579, 1), (8585, 8585, 1), (8748, 8749, 1), (8751, 8752, 1), (9001, 9002, 1),
  (10764, 10764, 1), (10972, 10972, 1), (11264, 11311, 1), (11360, 11362, 2), (11363, 11364, 1),
  (11367, 11373, 2), (11374, 11376, 1), (11378, 11378, 1), (11381, 11381, 1), (11390, 11392, 1),
  (11394, 11490, 2), (11499, 11501, 2), (11506, 11506, 1), (11631, 11631, 1), (11935, 11935, 1),
  (12019, 12245, 1), (12342, 12344, 2), (12345, 12346, 1), (12447, 12447, 1), (12543, 12543, 1),
  (12593, 12686, 1), (12690, 12703, 1), (12800, 12871, 1), (12896, 12926, 1), (12928, 13310, 1),
  (42560, 42604, 2), (42624, 42652, 2), (42653, 42653, 1), (42786, 42798, 2), (42802, 42864, 2),
  (42873, 42877, 2), (42878, 42886, 2), (42891, 42893, 2), (42896, 42898, 2), (42902, 42922, 2),
  (42923, 42926, 1), (42928, 42932, 1), (42934, 42948, 2), (42949, 42951, 1), (42953, 42955, 2),
  (42956, 42972, 2), (42997, 42997, 1), (43000, 43001, 1), (43868, 43871, 1), (43881, 43881, 1),
  (43888, 43967, 1), (63744, 64013, 1), (64016, 64018, 2), (64021, 64030, 1), (64032, 64034, 2),
  (64037, 64038, 1), (64042, 64285, 1), (64287, 64433, 1), (64467, 64829, 1), (64848, 64911, 1),
  (64914, 64967, 1), (65008, 65020, 1), (65041, 65048, 1), (65073, 65092, 1), (65105, 65137, 1),
  (65143, 65518, 1), (66560, 66599, 1), (66736, 66771, 1), (66928, 66965, 1), (67457, 67514, 1)]

/-- Rows 201 to 214 of the table. -/
def alteredRun2 : List (Nat × Nat × Nat) := [
  (68736, 68786, 1), (68944, 68965, 1), (71840, 71871, 1), (93760, 93791, 1), (93856, 93880, 1),
  (119134, 119140, 1), (119227, 119232, 1), (120484, 120779, 1), (122928, 122989, 1),
  (125184, 125217, 1), (126464, 126651, 1), (127274, 127274, 1), (127488, 127569, 1),
  (194560, 195101, 1)]

/-- Runs of characters, by first, last and distance, that fold to others beyond ASCII. -/
def alteredRuns : List (List (Nat × Nat × Nat)) :=
  [alteredRun0, alteredRun1, alteredRun2]

end TokenDesk.Text
