/-!
# Marks with a width

The ranges of code points that are marks and yet stand beside the character before them instead of
on it, in ascending order: vowel signs, and the two halfwidth sound marks. Characters that no
domain name keeps are not told apart from their neighbours.
-/

set_option autoImplicit false

namespace TokenDesk.Text

/-- Rows 1 to 100 of the table. -/
def spacingRange0 : List (Nat × Nat) := [
  (2307, 2307), (2363, 2363), (2366, 2368), (2377, 2380), (2382, 2383), (2434, 2435),
  (2494, 2496), (2503, 2508), (2519, 2519), (2563, 2563), (2622, 2624), (2691, 2691),
  (2750, 2752), (2761, 2764), (2818, 2819), (2878, 2878), (2880, 2880), (2887, 2892),
  (2903, 2903), (3006, 3007), (3009, 3020), (3031, 3031), (3073, 3075), (3137, 3140),
  (3202, 3203), (3262, 3275), (3285, 3286), (3315, 3315), (3330, 3331), (3390, 3392),
  (3398, 3404), (3415, 3415), (3458, 3459), (3535, 3537), (3544, 3551), (3570, 3571),
  (3635, 3635), (3763, 3763), (3902, 3903), (3967, 3967), (4139, 4140), (4145, 4145),
  (4152, 4152), (4155, 4156), (4182, 4183), (4194, 4196), (4199, 4205), (4227, 4228),
  (4231, 4236), (4239, 4239), (4250, 4252), (5909, 5909), (5940, 5940), (6070, 6070),
  (6078, 6085), (6087, 6088), (6435, 6438), (6441, 6449), (6451, 6456), (6681, 6682),
  (6741, 6741), (6743, 6743), (6753, 6753), (6755, 6756), (6765, 6770), (6916, 6916),
  (6965, 6965), (6971, 6971), (6973, 6977), (6979, 6980), (7042, 7042), (7073, 7073),
  (7078, 7079), (7082, 7082), (7143, 7143), (7146, 7148), (7150, 7150), (7154, 7155),
  (7204, 7211), (7220, 7221), (7393, 7393), (7415, 7415), (12334, 12335), (43043, 43044),
  (43047, 43047), (43136, 43137), (43188, 43203), (43346, 43347), (43395, 43395), (43444, 43445),
  (43450, 43451), (43454, 43456), (43567, 43568), (43571, 43572), (43597, 43597), (43643, 43643),
  (43645, 43645), (43755, 43755), (43758, 43759), (43765, 43765)]

/-- Rows 101 to 181 of the table. -/
def spacingRange1 : List (Nat × Nat) := [
  (44003, 44004), (44006, 44007), (44009, 44010), (44012, 44012), (65438, 65439), (69632, 69632),
  (69634, 69634), (69762, 69762), (69808, 69810), (69815, 69816), (69932, 69932), (69957, 69958),
  (70018, 70018), (70067, 70069), (70079, 70080), (70094, 70094), (70188, 70190), (70194, 70195),
  (70197, 70197), (70368, 70370), (70402, 70403), (70462, 70463), (70465, 70477), (70487, 70487),
  (70498, 70499), (70584, 70586), (70594, 70605), (70607, 70607), (70709, 70711), (70720, 70721),
  (70725, 70725), (70832, 70834), (70841, 70841), (70843, 70846), (70849, 70849), (71087, 71089),
  (71096, 71099), (71102, 71102), (71216, 71218), (71227, 71228), (71230, 71230), (71340, 71340),
  (71342, 71343), (71350, 71350), (71454, 71454), (71456, 71457), (71462, 71462), (71724, 71726),
  (71736, 71736), (71984, 71992), (71997, 71997), (72000, 72000), (72002, 72002), (72145, 72147),
  (72156, 72159), (72164, 72164), (72199, 72200), (72249, 72249), (72279, 72280), (72343, 72343),
  (72545, 72545), (72549, 72549), (72551, 72551), (72751, 72751), (72766, 72767), (72873, 72873),
  (72881, 72881), (72884, 72884), (73098, 73102), (73107, 73108), (73110, 73110), (73461, 73462),
  (73475, 73475), (73524, 73525), (73534, 73535), (73537, 73537), (90410, 90412), (94033, 94087),
  (94192, 94193), (119141, 119142), (119149, 119154)]

/-- The marks with a width, in ascending order. -/
def spacingRanges : List (List (Nat × Nat)) :=
  [spacingRange0, spacingRange1]

end TokenDesk.Text
