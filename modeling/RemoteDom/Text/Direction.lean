import RemoteDom.Text.Spans

/-! In which direction characters are written, as of version 17 of Unicode. -/

namespace RemoteDom.Text

inductive Direction where
  /-- Written from left to right. -/
  | left
  /-- Written from right to left. -/
  | right
  | digit
  /-- A digit of a number among letters that are written from right to left. -/
  | arabicDigit
  /-- A mark that takes no space of its own. -/
  | mark
  /-- Written as its neighbours are. -/
  | neutral
  /-- Something that stands between texts. -/
  | separator
deriving DecidableEq, Repr

namespace Direction

/-- From where on characters have a direction. Of characters that no name of a host contains, it
tells nothing. -/
def starts : List (Nat × Direction) :=
  [(0, .neutral), (9, .separator), (14, .neutral), (28, .separator), (33, .neutral), (48, .digit),
   (58, .neutral), (97, .left), (123, .neutral), (223, .left), (247, .neutral), (248, .left),
   (697, .neutral), (699, .left), (706, .neutral), (720, .left), (722, .neutral), (750, .left),
   (751, .neutral), (768, .mark), (881, .left), (885, .neutral), (887, .left), (1014, .neutral),
   (1016, .left), (1155, .mark), (1163, .left), (1418, .neutral), (1425, .mark), (1470, .right),
   (1471, .mark), (1472, .right), (1473, .mark), (1475, .right), (1476, .mark), (1478, .right),
   (1479, .mark), (1488, .right), (1542, .neutral), (1544, .right), (1545, .neutral),
   (1547, .right), (1548, .neutral), (1549, .right), (1550, .neutral), (1552, .mark),
   (1563, .right), (1611, .mark), (1632, .arabicDigit), (1642, .neutral), (1643, .arabicDigit),
   (1645, .right), (1648, .mark), (1649, .right), (1750, .mark), (1758, .neutral), (1759, .mark),
   (1765, .right), (1767, .mark), (1769, .neutral), (1770, .mark), (1774, .right), (1776, .digit),
   (1786, .right), (1809, .mark), (1810, .right), (1840, .mark), (1869, .right), (1958, .mark),
   (1969, .right), (2027, .mark), (2036, .right), (2038, .neutral), (2042, .right), (2045, .mark),
   (2046, .right), (2070, .mark), (2074, .right), (2075, .mark), (2084, .right), (2085, .mark),
   (2088, .right), (2089, .mark), (2096, .right), (2137, .mark), (2142, .right), (2199, .mark),
   (2208, .right), (2250, .mark), (2307, .left), (2362, .mark), (2363, .left), (2364, .mark),
   (2365, .left), (2369, .mark), (2377, .left), (2381, .mark), (2382, .left), (2385, .mark),
   (2400, .left), (2402, .mark), (2404, .left), (2433, .mark), (2434, .left), (2492, .mark),
   (2493, .left), (2497, .mark), (2503, .left), (2509, .mark), (2510, .left), (2530, .mark),
   (2534, .left), (2546, .neutral), (2548, .left), (2555, .neutral), (2556, .left), (2558, .mark),
   (2563, .left), (2620, .mark), (2622, .left), (2625, .mark), (2652, .left), (2672, .mark),
   (2674, .left), (2677, .mark), (2678, .left), (2689, .mark), (2691, .left), (2748, .mark),
   (2749, .left), (2753, .mark), (2761, .left), (2765, .mark), (2768, .left), (2786, .mark),
   (2790, .left), (2801, .neutral), (2809, .left), (2810, .mark), (2818, .left), (2876, .mark),
   (2877, .left), (2879, .mark), (2880, .left), (2881, .mark), (2887, .left), (2893, .mark),
   (2903, .left), (2914, .mark), (2918, .left), (2946, .mark), (2947, .left), (3008, .mark),
   (3009, .left), (3021, .mark), (3024, .left), (3059, .neutral), (3072, .mark), (3073, .left),
   (3076, .mark), (3077, .left), (3132, .mark), (3133, .left), (3134, .mark), (3137, .left),
   (3142, .mark), (3160, .left), (3170, .mark), (3174, .left), (3192, .neutral), (3199, .left),
   (3201, .mark), (3202, .left), (3260, .mark), (3261, .left), (3276, .mark), (3285, .left),
   (3298, .mark), (3302, .left), (3328, .mark), (3330, .left), (3387, .mark), (3389, .left),
   (3393, .mark), (3398, .left), (3405, .mark), (3406, .left), (3426, .mark), (3430, .left),
   (3457, .mark), (3458, .left), (3530, .mark), (3535, .left), (3538, .mark), (3544, .left),
   (3633, .mark), (3634, .left), (3636, .mark), (3647, .neutral), (3648, .left), (3655, .mark),
   (3663, .left), (3761, .mark), (3762, .left), (3764, .mark), (3773, .left), (3784, .mark),
   (3792, .left), (3864, .mark), (3866, .left), (3893, .mark), (3894, .left), (3895, .mark),
   (3896, .left), (3897, .mark), (3898, .neutral), (3902, .left), (3953, .mark), (3967, .left),
   (3968, .mark), (3973, .left), (3974, .mark), (3976, .left), (3981, .mark), (4030, .left),
   (4038, .mark), (4039, .left), (4141, .mark), (4145, .left), (4146, .mark), (4152, .left),
   (4153, .mark), (4155, .left), (4157, .mark), (4159, .left), (4184, .mark), (4186, .left),
   (4190, .mark), (4193, .left), (4209, .mark), (4213, .left), (4226, .mark), (4227, .left),
   (4229, .mark), (4231, .left), (4237, .mark), (4238, .left), (4253, .mark), (4254, .left),
   (4957, .mark), (4960, .left), (5008, .neutral), (5024, .left), (5120, .neutral), (5121, .left),
   (5787, .neutral), (5792, .left), (5906, .mark), (5909, .left), (5938, .mark), (5940, .left),
   (5970, .mark), (5984, .left), (6002, .mark), (6016, .left), (6071, .mark), (6078, .left),
   (6086, .mark), (6087, .left), (6089, .mark), (6100, .left), (6107, .neutral), (6108, .left),
   (6109, .mark), (6112, .left), (6128, .neutral), (6160, .left), (6277, .mark), (6279, .left),
   (6313, .mark), (6314, .left), (6432, .mark), (6435, .left), (6439, .mark), (6441, .left),
   (6450, .mark), (6451, .left), (6457, .mark), (6464, .neutral), (6470, .left), (6622, .neutral),
   (6656, .left), (6679, .mark), (6681, .left), (6683, .mark), (6686, .left), (6742, .mark),
   (6743, .left), (6744, .mark), (6753, .left), (6754, .mark), (6755, .left), (6757, .mark),
   (6765, .left), (6771, .mark), (6784, .left), (6832, .mark), (6916, .left), (6964, .mark),
   (6965, .left), (6966, .mark), (6971, .left), (6972, .mark), (6973, .left), (6978, .mark),
   (6979, .left), (7019, .mark), (7028, .left), (7040, .mark), (7042, .left), (7074, .mark),
   (7078, .left), (7080, .mark), (7082, .left), (7083, .mark), (7086, .left), (7142, .mark),
   (7143, .left), (7144, .mark), (7146, .left), (7149, .mark), (7150, .left), (7151, .mark),
   (7154, .left), (7212, .mark), (7220, .left), (7222, .mark), (7227, .left), (7376, .mark),
   (7379, .left), (7380, .mark), (7393, .left), (7394, .mark), (7401, .left), (7405, .mark),
   (7406, .left), (7412, .mark), (7413, .left), (7416, .mark), (7418, .left), (7616, .mark),
   (7681, .left), (8204, .neutral), (8400, .mark), (8452, .neutral), (8526, .left),
   (8586, .neutral), (9014, .left), (9083, .neutral), (9109, .left), (9110, .neutral),
   (9900, .left), (9901, .neutral), (10240, .left), (10496, .neutral), (11312, .left),
   (11493, .neutral), (11500, .left), (11503, .mark), (11507, .left), (11513, .neutral),
   (11520, .left), (11647, .mark), (11648, .left), (11744, .mark), (11776, .neutral),
   (12293, .left), (12296, .neutral), (12321, .left), (12330, .mark), (12334, .left),
   (12336, .neutral), (12337, .left), (12343, .neutral), (12347, .left), (12349, .neutral),
   (12353, .left), (12441, .mark), (12445, .left), (12448, .neutral), (12449, .left),
   (12539, .neutral), (12540, .left), (12736, .neutral), (12784, .left), (19904, .neutral),
   (19968, .left), (42128, .neutral), (42192, .left), (42509, .neutral), (42512, .left),
   (42607, .mark), (42611, .neutral), (42612, .mark), (42622, .neutral), (42625, .left),
   (42654, .mark), (42656, .left), (42736, .mark), (42738, .left), (42752, .neutral),
   (42787, .left), (42888, .neutral), (42889, .left), (43010, .mark), (43011, .left),
   (43014, .mark), (43015, .left), (43019, .mark), (43020, .left), (43045, .mark), (43047, .left),
   (43048, .neutral), (43052, .mark), (43056, .left), (43064, .neutral), (43072, .left),
   (43124, .neutral), (43136, .left), (43204, .mark), (43214, .left), (43232, .mark),
   (43250, .left), (43263, .mark), (43264, .left), (43302, .mark), (43310, .left), (43335, .mark),
   (43346, .left), (43392, .mark), (43395, .left), (43443, .mark), (43444, .left), (43446, .mark),
   (43450, .left), (43452, .mark), (43454, .left), (43493, .mark), (43494, .left), (43561, .mark),
   (43567, .left), (43569, .mark), (43571, .left), (43573, .mark), (43584, .left), (43587, .mark),
   (43588, .left), (43596, .mark), (43597, .left), (43644, .mark), (43645, .left), (43696, .mark),
   (43697, .left), (43698, .mark), (43701, .left), (43703, .mark), (43705, .left), (43710, .mark),
   (43712, .left), (43713, .mark), (43714, .left), (43756, .mark), (43758, .left), (43766, .mark),
   (43777, .left), (43882, .neutral), (43968, .left), (44005, .mark), (44006, .left),
   (44008, .mark), (44009, .left), (44013, .mark), (44016, .left), (64286, .mark), (64434, .right),
   (64451, .neutral), (65056, .mark), (65093, .neutral), (65139, .right), (65536, .left),
   (65793, .neutral), (65794, .left), (65856, .neutral), (65933, .left), (65936, .neutral),
   (66000, .left), (66045, .mark), (66176, .left), (66272, .mark), (66273, .digit), (66304, .left),
   (66422, .mark), (66432, .left), (67584, .right), (67871, .neutral), (67872, .right),
   (68097, .mark), (68112, .right), (68152, .mark), (68160, .right), (68325, .mark),
   (68331, .right), (68409, .neutral), (68416, .right), (68900, .mark), (68912, .arabicDigit),
   (68938, .right), (68969, .mark), (68974, .neutral), (68975, .right), (69216, .arabicDigit),
   (69248, .right), (69291, .mark), (69293, .right), (69328, .neutral), (69370, .mark),
   (69376, .right), (69446, .mark), (69457, .right), (69506, .mark), (69510, .right),
   (69632, .left), (69633, .mark), (69634, .left), (69688, .mark), (69703, .left),
   (69714, .neutral), (69734, .left), (69744, .mark), (69745, .left), (69747, .mark),
   (69749, .left), (69759, .mark), (69762, .left), (69811, .mark), (69815, .left), (69817, .mark),
   (69819, .left), (69826, .mark), (69840, .left), (69888, .mark), (69891, .left), (69927, .mark),
   (69932, .left), (69933, .mark), (69942, .left), (70003, .mark), (70004, .left), (70016, .mark),
   (70018, .left), (70070, .mark), (70079, .left), (70089, .mark), (70093, .left), (70095, .mark),
   (70096, .left), (70191, .mark), (70194, .left), (70196, .mark), (70197, .left), (70198, .mark),
   (70200, .left), (70206, .mark), (70207, .left), (70209, .mark), (70272, .left), (70367, .mark),
   (70368, .left), (70371, .mark), (70384, .left), (70400, .mark), (70402, .left), (70459, .mark),
   (70461, .left), (70464, .mark), (70465, .left), (70502, .mark), (70528, .left), (70587, .mark),
   (70594, .left), (70606, .mark), (70607, .left), (70608, .mark), (70609, .left), (70610, .mark),
   (70611, .left), (70625, .mark), (70656, .left), (70712, .mark), (70720, .left), (70722, .mark),
   (70725, .left), (70726, .mark), (70727, .left), (70750, .mark), (70751, .left), (70835, .mark),
   (70841, .left), (70842, .mark), (70843, .left), (70847, .mark), (70849, .left), (70850, .mark),
   (70852, .left), (71090, .mark), (71096, .left), (71100, .mark), (71102, .left), (71103, .mark),
   (71105, .left), (71132, .mark), (71168, .left), (71219, .mark), (71227, .left), (71229, .mark),
   (71230, .left), (71231, .mark), (71233, .left), (71264, .neutral), (71296, .left),
   (71339, .mark), (71340, .left), (71341, .mark), (71342, .left), (71344, .mark), (71350, .left),
   (71351, .mark), (71352, .left), (71453, .mark), (71454, .left), (71455, .mark), (71456, .left),
   (71458, .mark), (71462, .left), (71463, .mark), (71472, .left), (71727, .mark), (71736, .left),
   (71737, .mark), (71739, .left), (71995, .mark), (71997, .left), (71998, .mark), (71999, .left),
   (72003, .mark), (72004, .left), (72148, .mark), (72156, .left), (72160, .mark), (72161, .left),
   (72193, .mark), (72199, .left), (72201, .mark), (72203, .left), (72243, .mark), (72249, .left),
   (72251, .mark), (72255, .left), (72263, .mark), (72272, .left), (72273, .mark), (72279, .left),
   (72281, .mark), (72284, .left), (72330, .mark), (72343, .left), (72344, .mark), (72346, .left),
   (72544, .mark), (72545, .left), (72546, .mark), (72549, .left), (72550, .mark), (72551, .left),
   (72752, .mark), (72766, .left), (72850, .mark), (72873, .left), (72874, .mark), (72881, .left),
   (72882, .mark), (72884, .left), (72885, .mark), (72960, .left), (73009, .mark), (73030, .left),
   (73031, .mark), (73040, .left), (73104, .mark), (73107, .left), (73109, .mark), (73110, .left),
   (73111, .mark), (73112, .left), (73459, .mark), (73461, .left), (73472, .mark), (73474, .left),
   (73526, .mark), (73534, .left), (73536, .mark), (73537, .left), (73538, .mark), (73539, .left),
   (73562, .mark), (73648, .left), (73685, .neutral), (73727, .left), (78912, .mark),
   (78913, .left), (78919, .mark), (78944, .left), (90398, .mark), (90410, .left), (90413, .mark),
   (90416, .left), (92912, .mark), (92917, .left), (92976, .mark), (92983, .left), (94031, .mark),
   (94032, .left), (94095, .mark), (94099, .left), (94178, .neutral), (94179, .left),
   (94180, .mark), (94192, .left), (113821, .mark), (113823, .left), (117760, .neutral),
   (118528, .mark), (118608, .left), (119143, .mark), (119146, .left), (119163, .mark),
   (119171, .left), (119173, .mark), (119180, .left), (119210, .mark), (119214, .left),
   (119273, .neutral), (119362, .mark), (119365, .neutral), (119488, .left), (119552, .neutral),
   (119648, .left), (121344, .mark), (121399, .left), (121403, .mark), (121453, .left),
   (121461, .mark), (121462, .left), (121476, .mark), (121477, .left), (121499, .mark),
   (122624, .left), (122880, .mark), (123136, .left), (123184, .mark), (123191, .left),
   (123566, .mark), (123584, .left), (123628, .mark), (123632, .left), (123647, .neutral),
   (124112, .left), (124140, .mark), (124144, .left), (124398, .mark), (124400, .left),
   (124643, .mark), (124644, .left), (124646, .mark), (124647, .left), (124654, .mark),
   (124656, .left), (124661, .mark), (124670, .left), (124928, .right), (125136, .mark),
   (125218, .right), (125252, .mark), (125259, .right), (126704, .neutral), (127312, .left),
   (127341, .neutral), (127344, .left), (127405, .neutral), (127462, .left), (127584, .neutral),
   (131072, .left)]

def ofChar (c : Char) : Direction := valueAt .neutral starts c.toNat

end Direction

/-- The code points at which being a mark that takes space changes, in increasing order. -/
def spacingMarkBoundaries : List Nat :=
  [2307, 2308, 2363, 2364, 2366, 2369, 2377, 2381, 2382, 2384, 2434, 2436, 2494, 2497, 2503, 2505,
   2507, 2509, 2519, 2520, 2563, 2564, 2622, 2625, 2691, 2692, 2750, 2753, 2761, 2762, 2763, 2765,
   2818, 2820, 2878, 2879, 2880, 2881, 2887, 2889, 2891, 2893, 2903, 2904, 3006, 3008, 3009, 3011,
   3014, 3017, 3018, 3021, 3031, 3032, 3073, 3076, 3137, 3141, 3202, 3204, 3262, 3269, 3270, 3273,
   3274, 3276, 3285, 3287, 3315, 3316, 3330, 3332, 3390, 3393, 3398, 3401, 3402, 3405, 3415, 3416,
   3458, 3460, 3535, 3538, 3544, 3552, 3570, 3572, 3902, 3904, 3967, 3968, 4139, 4141, 4145, 4146,
   4152, 4153, 4155, 4157, 4182, 4184, 4194, 4197, 4199, 4206, 4227, 4229, 4231, 4237, 4239, 4240,
   4250, 4253, 5909, 5910, 5940, 5941, 6070, 6071, 6078, 6086, 6087, 6089, 6435, 6439, 6441, 6444,
   6448, 6450, 6451, 6457, 6681, 6683, 6741, 6742, 6743, 6744, 6753, 6754, 6755, 6757, 6765, 6771,
   6916, 6917, 6965, 6966, 6971, 6972, 6973, 6978, 6979, 6981, 7042, 7043, 7073, 7074, 7078, 7080,
   7082, 7083, 7143, 7144, 7146, 7149, 7150, 7151, 7154, 7156, 7204, 7212, 7220, 7222, 7393, 7394,
   7415, 7416, 12334, 12336, 43043, 43045, 43047, 43048, 43136, 43138, 43188, 43204, 43346, 43348,
   43395, 43396, 43444, 43446, 43450, 43452, 43454, 43457, 43567, 43569, 43571, 43573, 43597, 43598,
   43643, 43644, 43645, 43646, 43755, 43756, 43758, 43760, 43765, 43766, 44003, 44005, 44006, 44008,
   44009, 44011, 44012, 44013, 69632, 69633, 69634, 69635, 69762, 69763, 69808, 69811, 69815, 69817,
   69932, 69933, 69957, 69959, 70018, 70019, 70067, 70070, 70079, 70081, 70094, 70095, 70188, 70191,
   70194, 70196, 70197, 70198, 70368, 70371, 70402, 70404, 70462, 70464, 70465, 70469, 70471, 70473,
   70475, 70478, 70487, 70488, 70498, 70500, 70584, 70587, 70594, 70595, 70597, 70598, 70599, 70603,
   70604, 70606, 70607, 70608, 70709, 70712, 70720, 70722, 70725, 70726, 70832, 70835, 70841, 70842,
   70843, 70847, 70849, 70850, 71087, 71090, 71096, 71100, 71102, 71103, 71216, 71219, 71227, 71229,
   71230, 71231, 71340, 71341, 71342, 71344, 71350, 71351, 71454, 71455, 71456, 71458, 71462, 71463,
   71724, 71727, 71736, 71737, 71984, 71990, 71991, 71993, 71997, 71998, 72000, 72001, 72002, 72003,
   72145, 72148, 72156, 72160, 72164, 72165, 72199, 72201, 72249, 72250, 72279, 72281, 72343, 72344,
   72545, 72546, 72549, 72550, 72551, 72552, 72751, 72752, 72766, 72768, 72873, 72874, 72881, 72882,
   72884, 72885, 73098, 73103, 73107, 73109, 73110, 73111, 73461, 73463, 73475, 73476, 73524, 73526,
   73534, 73536, 73537, 73538, 90410, 90413, 94033, 94088, 94192, 94194, 119141, 119143, 119149,
   119155]

/-- A character that belongs to the letter before it. -/
def isMark (c : Char) : Bool :=
  Direction.ofChar c == .mark || isWithin spacingMarkBoundaries c.toNat

end RemoteDom.Text
