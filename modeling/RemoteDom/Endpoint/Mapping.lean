import RemoteDom.Text.Spans

/-! How the characters of host names are compared: capital letters as small ones, and wide, narrow,
raised and circled forms as plain ones. Some characters count for nothing, and some are not
allowed. Characters that came after version 17 of Unicode are not allowed either. -/

namespace RemoteDom.Mapping

open Text

/-- The code points beyond ASCII at which it changes whether characters are allowed. -/
def excludedBoundaries : List Nat :=
  [128, 160, 888, 890, 896, 900, 907, 908, 909, 910, 930, 931, 1328, 1329, 1367, 1369, 1419, 1421,
   1424, 1425, 1480, 1488, 1515, 1519, 1525, 1542, 1564, 1565, 1757, 1758, 1806, 1808, 1867, 1869,
   1970, 1984, 2043, 2045, 2094, 2096, 2111, 2112, 2140, 2142, 2143, 2144, 2155, 2160, 2192, 2199,
   2274, 2275, 2436, 2437, 2445, 2447, 2449, 2451, 2473, 2474, 2481, 2482, 2483, 2486, 2490, 2492,
   2501, 2503, 2505, 2507, 2511, 2519, 2520, 2524, 2526, 2527, 2532, 2534, 2559, 2561, 2564, 2565,
   2571, 2575, 2577, 2579, 2601, 2602, 2609, 2610, 2612, 2613, 2615, 2616, 2618, 2620, 2621, 2622,
   2627, 2631, 2633, 2635, 2638, 2641, 2642, 2649, 2653, 2654, 2655, 2662, 2679, 2689, 2692, 2693,
   2702, 2703, 2706, 2707, 2729, 2730, 2737, 2738, 2740, 2741, 2746, 2748, 2758, 2759, 2762, 2763,
   2766, 2768, 2769, 2784, 2788, 2790, 2802, 2809, 2816, 2817, 2820, 2821, 2829, 2831, 2833, 2835,
   2857, 2858, 2865, 2866, 2868, 2869, 2874, 2876, 2885, 2887, 2889, 2891, 2894, 2901, 2904, 2908,
   2910, 2911, 2916, 2918, 2936, 2946, 2948, 2949, 2955, 2958, 2961, 2962, 2966, 2969, 2971, 2972,
   2973, 2974, 2976, 2979, 2981, 2984, 2987, 2990, 3002, 3006, 3011, 3014, 3017, 3018, 3022, 3024,
   3025, 3031, 3032, 3046, 3067, 3072, 3085, 3086, 3089, 3090, 3113, 3114, 3130, 3132, 3141, 3142,
   3145, 3146, 3150, 3157, 3159, 3160, 3163, 3164, 3166, 3168, 3172, 3174, 3184, 3191, 3213, 3214,
   3217, 3218, 3241, 3242, 3252, 3253, 3258, 3260, 3269, 3270, 3273, 3274, 3278, 3285, 3287, 3292,
   3295, 3296, 3300, 3302, 3312, 3313, 3316, 3328, 3341, 3342, 3345, 3346, 3397, 3398, 3401, 3402,
   3408, 3412, 3428, 3430, 3456, 3457, 3460, 3461, 3479, 3482, 3506, 3507, 3516, 3517, 3518, 3520,
   3527, 3530, 3531, 3535, 3541, 3542, 3543, 3544, 3552, 3558, 3568, 3570, 3573, 3585, 3643, 3647,
   3676, 3713, 3715, 3716, 3717, 3718, 3723, 3724, 3748, 3749, 3750, 3751, 3774, 3776, 3781, 3782,
   3783, 3784, 3791, 3792, 3802, 3804, 3808, 3840, 3912, 3913, 3949, 3953, 3992, 3993, 4029, 4030,
   4045, 4046, 4059, 4096, 4294, 4295, 4296, 4301, 4302, 4304, 4681, 4682, 4686, 4688, 4695, 4696,
   4697, 4698, 4702, 4704, 4745, 4746, 4750, 4752, 4785, 4786, 4790, 4792, 4799, 4800, 4801, 4802,
   4806, 4808, 4823, 4824, 4881, 4882, 4886, 4888, 4955, 4957, 4989, 4992, 5018, 5024, 5110, 5112,
   5118, 5120, 5760, 5761, 5789, 5792, 5881, 5888, 5910, 5919, 5943, 5952, 5972, 5984, 5997, 5998,
   6001, 6002, 6004, 6016, 6110, 6112, 6122, 6128, 6138, 6144, 6170, 6176, 6265, 6272, 6315, 6320,
   6390, 6400, 6431, 6432, 6444, 6448, 6460, 6464, 6465, 6468, 6510, 6512, 6517, 6528, 6572, 6576,
   6602, 6608, 6619, 6622, 6684, 6686, 6751, 6752, 6781, 6783, 6794, 6800, 6810, 6816, 6830, 6832,
   6878, 6880, 6892, 6912, 6989, 6990, 7156, 7164, 7224, 7227, 7242, 7245, 7307, 7312, 7355, 7357,
   7368, 7376, 7419, 7424, 7958, 7960, 7966, 7968, 8006, 8008, 8014, 8016, 8024, 8025, 8026, 8027,
   8028, 8029, 8030, 8031, 8062, 8064, 8117, 8118, 8133, 8134, 8148, 8150, 8156, 8157, 8176, 8178,
   8181, 8182, 8191, 8192, 8206, 8208, 8228, 8231, 8232, 8239, 8293, 8298, 8306, 8308, 8335, 8336,
   8349, 8352, 8386, 8400, 8433, 8448, 8588, 8592, 9258, 9280, 9291, 9312, 9352, 9372, 11124, 11126,
   11508, 11513, 11558, 11559, 11560, 11565, 11566, 11568, 11624, 11631, 11633, 11647, 11671, 11680,
   11687, 11688, 11695, 11696, 11703, 11704, 11711, 11712, 11719, 11720, 11727, 11728, 11735, 11736,
   11743, 11744, 11870, 11904, 11930, 11931, 12020, 12032, 12246, 12288, 12352, 12353, 12439, 12441,
   12544, 12549, 12592, 12593, 12687, 12688, 12774, 12784, 12831, 12832, 13250, 13251, 13255, 13256,
   13272, 13273, 42125, 42128, 42183, 42192, 42540, 42560, 42744, 42752, 42973, 42993, 43053, 43056,
   43066, 43072, 43128, 43136, 43206, 43214, 43226, 43232, 43348, 43359, 43389, 43392, 43470, 43471,
   43482, 43486, 43519, 43520, 43575, 43584, 43598, 43600, 43610, 43612, 43715, 43739, 43767, 43777,
   43783, 43785, 43791, 43793, 43799, 43808, 43815, 43816, 43823, 43824, 43884, 43888, 44014, 44016,
   44026, 44032, 55204, 55216, 55239, 55243, 55292, 63744, 64110, 64112, 64218, 64256, 64263, 64275,
   64280, 64285, 64311, 64312, 64317, 64318, 64319, 64320, 64322, 64323, 64325, 64326, 64976, 65008,
   65042, 65043, 65049, 65056, 65072, 65073, 65106, 65108, 65127, 65128, 65132, 65136, 65141, 65142,
   65277, 65279, 65280, 65281, 65471, 65474, 65480, 65482, 65488, 65490, 65496, 65498, 65501, 65504,
   65511, 65512, 65519, 65536, 65548, 65549, 65575, 65576, 65595, 65596, 65598, 65599, 65614, 65616,
   65630, 65664, 65787, 65792, 65795, 65799, 65844, 65847, 65935, 65936, 65949, 65952, 65953, 66000,
   66046, 66176, 66205, 66208, 66257, 66272, 66300, 66304, 66340, 66349, 66379, 66384, 66427, 66432,
   66462, 66463, 66500, 66504, 66518, 66560, 66718, 66720, 66730, 66736, 66772, 66776, 66812, 66816,
   66856, 66864, 66916, 66927, 66939, 66940, 66955, 66956, 66963, 66964, 66966, 66967, 66978, 66979,
   66994, 66995, 67002, 67003, 67005, 67008, 67060, 67072, 67383, 67392, 67414, 67424, 67432, 67456,
   67462, 67463, 67505, 67506, 67515, 67584, 67590, 67592, 67593, 67594, 67638, 67639, 67641, 67644,
   67645, 67647, 67670, 67671, 67743, 67751, 67760, 67808, 67827, 67828, 67830, 67835, 67868, 67871,
   67898, 67903, 67930, 67968, 68024, 68028, 68048, 68050, 68100, 68101, 68103, 68108, 68116, 68117,
   68120, 68121, 68150, 68152, 68155, 68159, 68169, 68176, 68185, 68192, 68256, 68288, 68327, 68331,
   68343, 68352, 68406, 68409, 68438, 68440, 68467, 68472, 68498, 68505, 68509, 68521, 68528, 68608,
   68681, 68736, 68787, 68800, 68851, 68858, 68904, 68912, 68922, 68928, 68966, 68969, 68998, 69006,
   69008, 69216, 69247, 69248, 69290, 69291, 69294, 69296, 69298, 69314, 69320, 69328, 69337, 69370,
   69416, 69424, 69466, 69488, 69514, 69552, 69580, 69600, 69623, 69632, 69710, 69714, 69750, 69759,
   69821, 69822, 69827, 69840, 69865, 69872, 69882, 69888, 69941, 69942, 69960, 69968, 70007, 70016,
   70112, 70113, 70133, 70144, 70162, 70163, 70210, 70272, 70279, 70280, 70281, 70282, 70286, 70287,
   70302, 70303, 70314, 70320, 70379, 70384, 70394, 70400, 70404, 70405, 70413, 70415, 70417, 70419,
   70441, 70442, 70449, 70450, 70452, 70453, 70458, 70459, 70469, 70471, 70473, 70475, 70478, 70480,
   70481, 70487, 70488, 70493, 70500, 70502, 70509, 70512, 70517, 70528, 70538, 70539, 70540, 70542,
   70543, 70544, 70582, 70583, 70593, 70594, 70595, 70597, 70598, 70599, 70603, 70604, 70614, 70615,
   70617, 70625, 70627, 70656, 70748, 70749, 70754, 70784, 70856, 70864, 70874, 71040, 71094, 71096,
   71134, 71168, 71237, 71248, 71258, 71264, 71277, 71296, 71354, 71360, 71370, 71376, 71396, 71424,
   71451, 71453, 71468, 71472, 71495, 71680, 71740, 71840, 71923, 71935, 71943, 71945, 71946, 71948,
   71956, 71957, 71959, 71960, 71990, 71991, 71993, 71995, 72007, 72016, 72026, 72096, 72104, 72106,
   72152, 72154, 72165, 72192, 72264, 72272, 72355, 72368, 72441, 72448, 72458, 72544, 72552, 72640,
   72674, 72688, 72698, 72704, 72713, 72714, 72759, 72760, 72774, 72784, 72813, 72816, 72848, 72850,
   72872, 72873, 72887, 72960, 72967, 72968, 72970, 72971, 73015, 73018, 73019, 73020, 73022, 73023,
   73032, 73040, 73050, 73056, 73062, 73063, 73065, 73066, 73103, 73104, 73106, 73107, 73113, 73120,
   73130, 73136, 73180, 73184, 73194, 73440, 73465, 73472, 73489, 73490, 73531, 73534, 73563, 73648,
   73649, 73664, 73714, 73727, 74650, 74752, 74863, 74864, 74869, 74880, 75076, 77712, 77811, 77824,
   78896, 78912, 78934, 78944, 82939, 82944, 83527, 90368, 90426, 92160, 92729, 92736, 92767, 92768,
   92778, 92782, 92863, 92864, 92874, 92880, 92910, 92912, 92918, 92928, 92998, 93008, 93018, 93019,
   93026, 93027, 93048, 93053, 93072, 93504, 93562, 93760, 93851, 93856, 93881, 93883, 93908, 93952,
   94027, 94031, 94088, 94095, 94112, 94176, 94181, 94192, 94199, 94208, 101590, 101631, 101663,
   101760, 101875, 110576, 110580, 110581, 110588, 110589, 110591, 110592, 110883, 110898, 110899,
   110928, 110931, 110933, 110934, 110948, 110952, 110960, 111356, 113664, 113771, 113776, 113789,
   113792, 113801, 113808, 113818, 113820, 113828, 117760, 118013, 118016, 118452, 118458, 118481,
   118496, 118513, 118528, 118574, 118576, 118599, 118608, 118724, 118784, 119030, 119040, 119079,
   119081, 119275, 119296, 119366, 119488, 119508, 119520, 119540, 119552, 119639, 119648, 119673,
   119808, 119893, 119894, 119965, 119966, 119968, 119970, 119971, 119973, 119975, 119977, 119981,
   119982, 119994, 119995, 119996, 119997, 120004, 120005, 120070, 120071, 120075, 120077, 120085,
   120086, 120093, 120094, 120122, 120123, 120127, 120128, 120133, 120134, 120135, 120138, 120145,
   120146, 120486, 120488, 120780, 120782, 121484, 121499, 121504, 121505, 121520, 122624, 122655,
   122661, 122667, 122880, 122887, 122888, 122905, 122907, 122914, 122915, 122917, 122918, 122923,
   122928, 122990, 123023, 123024, 123136, 123181, 123184, 123198, 123200, 123210, 123214, 123216,
   123536, 123567, 123584, 123642, 123647, 123648, 124112, 124154, 124368, 124411, 124415, 124416,
   124608, 124639, 124640, 124662, 124670, 124672, 124896, 124903, 124904, 124908, 124909, 124911,
   124912, 124927, 124928, 125125, 125127, 125143, 125184, 125260, 125264, 125274, 125278, 125280,
   126065, 126133, 126209, 126270, 126464, 126468, 126469, 126496, 126497, 126499, 126500, 126501,
   126503, 126504, 126505, 126515, 126516, 126520, 126521, 126522, 126523, 126524, 126530, 126531,
   126535, 126536, 126537, 126538, 126539, 126540, 126541, 126544, 126545, 126547, 126548, 126549,
   126551, 126552, 126553, 126554, 126555, 126556, 126557, 126558, 126559, 126560, 126561, 126563,
   126564, 126565, 126567, 126571, 126572, 126579, 126580, 126584, 126585, 126589, 126590, 126591,
   126592, 126602, 126603, 126620, 126625, 126628, 126629, 126634, 126635, 126652, 126704, 126706,
   126976, 127020, 127024, 127124, 127136, 127151, 127153, 127168, 127169, 127184, 127185, 127222,
   127233, 127406, 127462, 127491, 127504, 127548, 127552, 127561, 127568, 127570, 127584, 127590,
   127744, 128729, 128732, 128749, 128752, 128765, 128768, 128986, 128992, 129004, 129008, 129009,
   129024, 129036, 129040, 129096, 129104, 129114, 129120, 129160, 129168, 129198, 129200, 129212,
   129216, 129218, 129232, 129241, 129280, 129624, 129632, 129646, 129648, 129661, 129664, 129675,
   129678, 129735, 129736, 129737, 129741, 129757, 129759, 129771, 129775, 129785, 129792, 129939,
   129940, 130043, 131072, 173792, 173824, 178206, 178208, 183982, 183984, 191457, 191472, 192094,
   194560, 195102, 196608, 201547, 201552, 210042, 917760, 918000, 1114112]

/-- The code points at which it changes whether characters count for nothing. -/
def ignoredBoundaries : List Nat :=
  [173, 174, 847, 848, 4447, 4449, 6068, 6070, 6155, 6160, 8203, 8204, 8288, 8293, 8298, 8304,
   12644, 12645, 65024, 65040, 65279, 65280, 65440, 65441, 113824, 113828, 119155, 119163, 917760,
   918000]

/-- Characters that stand for other characters at the same distance. -/
def runs : List Run :=
  [⟨192, 23, 1, 32⟩, ⟨216, 7, 1, 32⟩, ⟨256, 24, 2, 1⟩, ⟨313, 3, 2, 1⟩, ⟨321, 4, 2, 1⟩,
   ⟨330, 23, 2, 1⟩, ⟨377, 3, 2, 1⟩, ⟨416, 3, 2, 1⟩, ⟨461, 8, 2, 1⟩, ⟨478, 9, 2, 1⟩, ⟨504, 20, 2, 1⟩,
   ⟨546, 9, 2, 1⟩, ⟨582, 5, 2, 1⟩, ⟨904, 3, 1, 37⟩, ⟨913, 17, 1, 32⟩, ⟨931, 9, 1, 32⟩,
   ⟨984, 12, 2, 1⟩, ⟨1021, 3, 1, -130⟩, ⟨1024, 16, 1, 80⟩, ⟨1040, 32, 1, 32⟩, ⟨1120, 17, 2, 1⟩,
   ⟨1162, 27, 2, 1⟩, ⟨1217, 7, 2, 1⟩, ⟨1232, 48, 2, 1⟩, ⟨1329, 38, 1, 48⟩, ⟨4256, 38, 1, 7264⟩,
   ⟨5112, 6, 1, -8⟩, ⟨7312, 43, 1, -3008⟩, ⟨7357, 3, 1, -3008⟩, ⟨7473, 5, 2, -7372⟩,
   ⟨7476, 4, 2, -7372⟩, ⟨7517, 3, 1, -6571⟩, ⟨7588, 3, 1, -6972⟩, ⟨7598, 4, 1, -6972⟩,
   ⟨7612, 3, 1, -6956⟩, ⟨7680, 75, 2, 1⟩, ⟨7840, 48, 2, 1⟩, ⟨7944, 8, 1, -8⟩, ⟨7960, 6, 1, -8⟩,
   ⟨7976, 8, 1, -8⟩, ⟨7992, 8, 1, -8⟩, ⟨8008, 6, 1, -8⟩, ⟨8025, 4, 2, -8⟩, ⟨8040, 8, 1, -8⟩,
   ⟨8308, 6, 1, -8256⟩, ⟨8320, 10, 1, -8272⟩, ⟨8342, 4, 1, -8235⟩, ⟨8473, 3, 1, -8361⟩,
   ⟨8501, 4, 1, -7013⟩, ⟨9312, 9, 1, -9263⟩, ⟨9398, 26, 1, -9301⟩, ⟨9424, 26, 1, -9327⟩,
   ⟨11264, 48, 1, 48⟩, ⟨11367, 3, 2, 1⟩, ⟨11392, 50, 2, 1⟩, ⟨12599, 3, 1, -8244⟩,
   ⟨12602, 6, 1, -8074⟩, ⟨12609, 3, 1, -8251⟩, ⟨12613, 10, 1, -8252⟩, ⟨12623, 21, 1, -8174⟩,
   ⟨12664, 5, 1, -8269⟩, ⟨12676, 3, 1, -8237⟩, ⟨12899, 3, 1, -8542⟩, ⟨12905, 5, 1, -8539⟩,
   ⟨13028, 6, 1, -538⟩, ⟨13038, 5, 1, -528⟩, ⟨13045, 6, 1, -525⟩, ⟨13051, 4, 1, -524⟩,
   ⟨42560, 23, 2, 1⟩, ⟨42624, 14, 2, 1⟩, ⟨42786, 7, 2, 1⟩, ⟨42802, 31, 2, 1⟩, ⟨42878, 5, 2, 1⟩,
   ⟨42902, 10, 2, 1⟩, ⟨42932, 8, 2, 1⟩, ⟨42956, 8, 2, 1⟩, ⟨43888, 80, 1, -38864⟩,
   ⟨64292, 3, 1, -62793⟩, ⟨65089, 4, 1, -52789⟩, ⟨65281, 32, 1, -65248⟩, ⟨65313, 26, 1, -65216⟩,
   ⟨65339, 36, 1, -65248⟩, ⟨65413, 6, 1, -52923⟩, ⟨65423, 5, 1, -52913⟩, ⟨65430, 6, 1, -52910⟩,
   ⟨65447, 3, 1, -61092⟩, ⟨65450, 6, 1, -60922⟩, ⟨65457, 3, 1, -61099⟩, ⟨65461, 10, 1, -61100⟩,
   ⟨65474, 6, 1, -61025⟩, ⟨65482, 6, 1, -61027⟩, ⟨65490, 6, 1, -61029⟩, ⟨65498, 3, 1, -61031⟩,
   ⟨65513, 4, 1, -56921⟩, ⟨66560, 40, 1, 40⟩, ⟨66736, 36, 1, 40⟩, ⟨66928, 19, 2, 39⟩,
   ⟨66929, 5, 2, 39⟩, ⟨66941, 7, 2, 39⟩, ⟨66957, 3, 2, 39⟩, ⟨67510, 3, 1, -67062⟩,
   ⟨68736, 51, 1, 64⟩, ⟨68944, 22, 1, 32⟩, ⟨71840, 32, 1, 32⟩, ⟨93760, 32, 1, 32⟩,
   ⟨93856, 25, 1, 27⟩, ⟨117974, 26, 1, -117877⟩, ⟨118000, 10, 1, -117952⟩, ⟨119808, 26, 1, -119711⟩,
   ⟨119834, 26, 1, -119737⟩, ⟨119860, 26, 1, -119763⟩, ⟨119886, 13, 2, -119789⟩,
   ⟨119887, 3, 2, -119789⟩, ⟨119895, 9, 2, -119789⟩, ⟨119912, 26, 1, -119815⟩,
   ⟨119938, 26, 1, -119841⟩, ⟨119977, 4, 1, -119867⟩, ⟨119982, 8, 1, -119867⟩,
   ⟨119990, 4, 1, -119893⟩, ⟨119995, 11, 2, -119893⟩, ⟨119998, 3, 2, -119893⟩,
   ⟨120006, 5, 2, -119893⟩, ⟨120016, 26, 1, -119919⟩, ⟨120042, 26, 1, -119945⟩,
   ⟨120069, 3, 2, -119971⟩, ⟨120077, 8, 1, -119971⟩, ⟨120086, 7, 1, -119971⟩,
   ⟨120094, 26, 1, -119997⟩, ⟨120121, 3, 2, -120023⟩, ⟨120124, 6, 2, -120023⟩,
   ⟨120138, 7, 1, -120023⟩, ⟨120146, 26, 1, -120049⟩, ⟨120172, 26, 1, -120075⟩,
   ⟨120198, 26, 1, -120101⟩, ⟨120224, 26, 1, -120127⟩, ⟨120250, 26, 1, -120153⟩,
   ⟨120276, 26, 1, -120179⟩, ⟨120302, 26, 1, -120205⟩, ⟨120328, 26, 1, -120231⟩,
   ⟨120354, 26, 1, -120257⟩, ⟨120380, 26, 1, -120283⟩, ⟨120406, 26, 1, -120309⟩,
   ⟨120432, 26, 1, -120335⟩, ⟨120458, 26, 1, -120361⟩, ⟨120488, 17, 1, -119543⟩,
   ⟨120506, 7, 1, -119543⟩, ⟨120514, 17, 1, -119569⟩, ⟨120532, 7, 1, -119569⟩,
   ⟨120546, 17, 1, -119601⟩, ⟨120564, 7, 1, -119601⟩, ⟨120572, 17, 1, -119627⟩,
   ⟨120590, 7, 1, -119627⟩, ⟨120604, 17, 1, -119659⟩, ⟨120622, 7, 1, -119659⟩,
   ⟨120630, 17, 1, -119685⟩, ⟨120648, 7, 1, -119685⟩, ⟨120662, 17, 1, -119717⟩,
   ⟨120680, 7, 1, -119717⟩, ⟨120688, 17, 1, -119743⟩, ⟨120706, 7, 1, -119743⟩,
   ⟨120720, 17, 1, -119775⟩, ⟨120738, 7, 1, -119775⟩, ⟨120746, 17, 1, -119801⟩,
   ⟨120764, 7, 1, -119801⟩, ⟨120782, 10, 1, -120734⟩, ⟨120792, 10, 1, -120744⟩,
   ⟨120802, 10, 1, -120754⟩, ⟨120812, 10, 1, -120764⟩, ⟨120822, 10, 1, -120774⟩,
   ⟨122928, 9, 1, -121856⟩, ⟨122937, 3, 1, -121855⟩, ⟨122940, 11, 1, -121854⟩,
   ⟨122961, 9, 1, -121889⟩, ⟨122975, 6, 1, -121884⟩, ⟨125184, 34, 1, 34⟩, ⟨126474, 4, 1, -124871⟩,
   ⟨126506, 4, 1, -124903⟩, ⟨126603, 3, 1, -124999⟩, ⟨126635, 3, 1, -125031⟩,
   ⟨127280, 26, 1, -127183⟩, ⟨130032, 10, 1, -129984⟩]

/-- What characters from 160 on stand for. -/
def blocksFirst : List (Block (List Nat)) :=
  [⟨160, [[32]]⟩, ⟨168, [[32, 776]]⟩, ⟨170, [[97]]⟩, ⟨175, [[32, 772]]⟩, ⟨178, [[50], [51],
     [32, 769], [956]]⟩, ⟨184, [[32, 807], [49], [111]]⟩, ⟨188, [[49, 8260, 52], [49, 8260, 50],
     [51, 8260, 52]]⟩, ⟨304, [[105, 775]]⟩, ⟨306, [[105, 106], [105, 106], [309]]⟩, ⟨310, [[311]]⟩,
   ⟨319, [[108, 183], [108, 183]]⟩, ⟨329, [[700, 110]]⟩, ⟨376, [[255]]⟩, ⟨383, [[115]]⟩, ⟨385,
     [[595], [387]]⟩, ⟨388, [[389]]⟩, ⟨390, [[596], [392]]⟩, ⟨393, [[598], [599], [396]]⟩, ⟨398,
     [[477], [601], [603], [402]]⟩, ⟨403, [[608], [611]]⟩, ⟨406, [[617], [616], [409]]⟩, ⟨412,
     [[623], [626]]⟩, ⟨415, [[629]]⟩, ⟨422, [[640], [424]]⟩, ⟨425, [[643]]⟩, ⟨428, [[429]]⟩, ⟨430,
     [[648], [432]]⟩, ⟨433, [[650], [651], [436]]⟩, ⟨437, [[438]]⟩, ⟨439, [[658], [441]]⟩, ⟨444,
     [[445]]⟩, ⟨452, [[100, 382], [100, 382], [100, 382], [108, 106], [108, 106], [108, 106],
     [110, 106], [110, 106], [110, 106]]⟩, ⟨497, [[100, 122], [100, 122], [100, 122], [501]]⟩, ⟨502,
     [[405], [447]]⟩, ⟨544, [[414]]⟩, ⟨570, [[11365], [572]]⟩, ⟨573, [[410], [11366]]⟩, ⟨577,
     [[578]]⟩, ⟨579, [[384], [649], [652]]⟩, ⟨688, [[104], [614], [106], [114], [633], [635], [641],
     [119], [121]]⟩, ⟨728, [[32, 774], [32, 775], [32, 778], [32, 808], [32, 771], [32, 779]]⟩,
   ⟨736, [[611], [108], [115], [120], [661]]⟩, ⟨832, [[768], [769]]⟩, ⟨835, [[787], [776, 769],
     [953]]⟩, ⟨880, [[881]]⟩, ⟨882, [[883]]⟩, ⟨884, [[697]]⟩, ⟨886, [[887]]⟩, ⟨890, [[32, 953]]⟩,
   ⟨894, [[59], [1011]]⟩, ⟨900, [[32, 769], [32, 776, 769], [940], [183]]⟩, ⟨908, [[972]]⟩, ⟨910,
     [[973], [974]]⟩, ⟨975, [[983], [946], [952], [965], [973], [971], [966], [960]]⟩, ⟨1008,
     [[954], [961], [963]]⟩, ⟨1012, [[952], [949]]⟩, ⟨1015, [[1016]]⟩, ⟨1017, [[963], [1019]]⟩,
   ⟨1216, [[1231]]⟩, ⟨1415, [[1381, 1410]]⟩, ⟨1653, [[1575, 1652], [1608, 1652], [1735, 1652],
     [1610, 1652]]⟩, ⟨2392, [[2325, 2364], [2326, 2364], [2327, 2364], [2332, 2364], [2337, 2364],
     [2338, 2364], [2347, 2364], [2351, 2364]]⟩, ⟨2524, [[2465, 2492], [2466, 2492]]⟩, ⟨2527,
     [[2479, 2492]]⟩, ⟨2611, [[2610, 2620]]⟩, ⟨2614, [[2616, 2620]]⟩, ⟨2649, [[2582, 2620],
     [2583, 2620], [2588, 2620]]⟩, ⟨2654, [[2603, 2620]]⟩, ⟨2908, [[2849, 2876], [2850, 2876]]⟩,
   ⟨3635, [[3661, 3634]]⟩, ⟨3763, [[3789, 3762]]⟩, ⟨3804, [[3755, 3737], [3755, 3745]]⟩, ⟨3852,
     [[3851]]⟩, ⟨3907, [[3906, 4023]]⟩, ⟨3917, [[3916, 4023]]⟩, ⟨3922, [[3921, 4023]]⟩, ⟨3927,
     [[3926, 4023]]⟩, ⟨3932, [[3931, 4023]]⟩, ⟨3945, [[3904, 4021]]⟩, ⟨3955, [[3953, 3954]]⟩, ⟨3957,
     [[3953, 3956], [4018, 3968], [4018, 3953, 3968], [4019, 3968], [4019, 3953, 3968]]⟩, ⟨3969,
     [[3953, 3968]]⟩, ⟨3987, [[3986, 4023]]⟩, ⟨3997, [[3996, 4023]]⟩, ⟨4002, [[4001, 4023]]⟩, ⟨4007,
     [[4006, 4023]]⟩, ⟨4012, [[4011, 4023]]⟩, ⟨4025, [[3984, 4021]]⟩, ⟨4295, [[11559]]⟩, ⟨4301,
     [[11565]]⟩, ⟨4348, [[4316]]⟩, ⟨7296, [[1074], [1076], [1086], [1089], [1090], [1090], [1098],
     [1123], [42571], [7306]]⟩, ⟨7468, [[97], [230], [98]]⟩, ⟨7472, [[100]]⟩, ⟨7474, [[477]]⟩,
   ⟨7484, [[111], [547], [112], [114], [116], [117], [119], [97], [592], [593], [7426], [98], [100],
     [101], [601], [603], [604], [103]]⟩, ⟨7503, [[107], [109], [331], [111], [596], [7446], [7447],
     [112], [116], [117], [7453], [623], [118], [7461]]⟩, ⟨7520, [[966], [967], [105], [114], [117],
     [118], [946], [947], [961], [966], [967]]⟩, ⟨7544, [[1085]]⟩, ⟨7579, [[594], [99], [597],
     [240], [604], [102], [607], [609], [613]]⟩, ⟨7591, [[7547], [669], [621], [7557], [671], [625],
     [624]]⟩, ⟨7602, [[632], [642], [643], [427], [649], [650], [7452], [651], [652], [122]]⟩,
   ⟨7615, [[952]]⟩, ⟨7834, [[97, 702], [7777]]⟩, ⟨7838, [[223]]⟩, ⟨8049, [[940]]⟩]

def blocksSecond : List (Block (List Nat)) :=
  [⟨8051, [[941]]⟩, ⟨8053, [[942]]⟩, ⟨8055, [[943]]⟩, ⟨8057, [[972]]⟩, ⟨8059, [[973]]⟩, ⟨8061,
     [[974]]⟩, ⟨8064, [[7936, 953], [7937, 953], [7938, 953], [7939, 953], [7940, 953], [7941, 953],
     [7942, 953], [7943, 953], [7936, 953], [7937, 953], [7938, 953], [7939, 953], [7940, 953],
     [7941, 953], [7942, 953], [7943, 953], [7968, 953], [7969, 953], [7970, 953], [7971, 953],
     [7972, 953], [7973, 953], [7974, 953], [7975, 953], [7968, 953], [7969, 953], [7970, 953],
     [7971, 953], [7972, 953], [7973, 953], [7974, 953], [7975, 953]]⟩, ⟨8096, [[8032, 953],
     [8033, 953], [8034, 953], [8035, 953], [8036, 953], [8037, 953], [8038, 953], [8039, 953],
     [8032, 953], [8033, 953], [8034, 953], [8035, 953], [8036, 953], [8037, 953], [8038, 953],
     [8039, 953]]⟩, ⟨8114, [[8048, 953], [945, 953], [940, 953]]⟩, ⟨8119, [[8118, 953], [8112],
     [8113], [8048], [940], [945, 953], [32, 787], [953], [32, 787], [32, 834], [32, 776, 834],
     [8052, 953], [951, 953], [942, 953]]⟩, ⟨8135, [[8134, 953], [8050], [941], [8052], [942],
     [951, 953], [32, 787, 768], [32, 787, 769], [32, 787, 834]]⟩, ⟨8147, [[912]]⟩, ⟨8152, [[8144],
     [8145], [8054], [943]]⟩, ⟨8157, [[32, 788, 768], [32, 788, 769], [32, 788, 834]]⟩, ⟨8163,
     [[944]]⟩, ⟨8168, [[8160], [8161], [8058], [973], [8165], [32, 776, 768], [32, 776, 769],
     [96]]⟩, ⟨8178, [[8060, 953], [969, 953], [974, 953]]⟩, ⟨8183, [[8182, 953], [8056], [972],
     [8060], [974], [969, 953], [32, 769], [32, 788]]⟩, ⟨8192, [[32], [32], [32], [32], [32], [32],
     [32], [32], [32], [32], [32]]⟩, ⟨8209, [[8208]]⟩, ⟨8215, [[32, 819]]⟩, ⟨8239, [[32]]⟩, ⟨8243,
     [[8242, 8242], [8242, 8242, 8242]]⟩, ⟨8246, [[8245, 8245], [8245, 8245, 8245]]⟩, ⟨8252,
     [[33, 33]]⟩, ⟨8254, [[32, 773]]⟩, ⟨8263, [[63, 63], [63, 33], [33, 63]]⟩, ⟨8279,
     [[8242, 8242, 8242, 8242]]⟩, ⟨8287, [[32]]⟩, ⟨8304, [[48], [105]]⟩, ⟨8314, [[43], [8722], [61],
     [40], [41], [110]]⟩, ⟨8330, [[43], [8722], [61], [40], [41]]⟩, ⟨8336, [[97], [101], [111],
     [120], [601], [104]]⟩, ⟨8346, [[112], [115], [116]]⟩, ⟨8360, [[114, 115]]⟩, ⟨8448,
     [[97, 47, 99], [97, 47, 115], [99], [176, 99]]⟩, ⟨8453, [[99, 47, 111], [99, 47, 117], [603]]⟩,
   ⟨8457, [[176, 102], [103], [104], [104], [104], [104], [295], [105], [105], [108], [108]]⟩,
   ⟨8469, [[110], [110, 111]]⟩, ⟨8476, [[114], [114]]⟩, ⟨8480, [[115, 109], [116, 101, 108],
     [116, 109]]⟩, ⟨8484, [[122]]⟩, ⟨8486, [[969]]⟩, ⟨8488, [[122]]⟩, ⟨8490, [[107], [229], [98],
     [99]]⟩, ⟨8495, [[101], [101], [102], [8526], [109], [111]]⟩, ⟨8505, [[105]]⟩, ⟨8507,
     [[102, 97, 120], [960], [947], [947], [960], [8721]]⟩, ⟨8517, [[100], [100], [101], [105],
     [106]]⟩, ⟨8528, [[49, 8260, 55], [49, 8260, 57], [49, 8260, 49, 48], [49, 8260, 51],
     [50, 8260, 51], [49, 8260, 53], [50, 8260, 53], [51, 8260, 53], [52, 8260, 53], [49, 8260, 54],
     [53, 8260, 54], [49, 8260, 56], [51, 8260, 56], [53, 8260, 56], [55, 8260, 56], [49, 8260],
     [105], [105, 105], [105, 105, 105], [105, 118], [118], [118, 105], [118, 105, 105],
     [118, 105, 105, 105], [105, 120], [120], [120, 105], [120, 105, 105], [108], [99], [100],
     [109]]⟩, ⟨8560, [[105], [105, 105], [105, 105, 105], [105, 118], [118], [118, 105],
     [118, 105, 105], [118, 105, 105, 105], [105, 120], [120], [120, 105], [120, 105, 105], [108],
     [99], [100], [109]]⟩, ⟨8579, [[8580]]⟩, ⟨8585, [[48, 8260, 51]]⟩, ⟨8748, [[8747, 8747],
     [8747, 8747, 8747]]⟩, ⟨8751, [[8750, 8750], [8750, 8750, 8750]]⟩, ⟨9001, [[12296], [12297]]⟩,
   ⟨9321, [[49, 48], [49, 49], [49, 50], [49, 51], [49, 52], [49, 53], [49, 54], [49, 55], [49, 56],
     [49, 57], [50, 48], [40, 49, 41], [40, 50, 41], [40, 51, 41], [40, 52, 41], [40, 53, 41],
     [40, 54, 41], [40, 55, 41], [40, 56, 41], [40, 57, 41], [40, 49, 48, 41], [40, 49, 49, 41],
     [40, 49, 50, 41], [40, 49, 51, 41], [40, 49, 52, 41], [40, 49, 53, 41], [40, 49, 54, 41],
     [40, 49, 55, 41], [40, 49, 56, 41], [40, 49, 57, 41], [40, 50, 48, 41]]⟩, ⟨9372, [[40, 97, 41],
     [40, 98, 41], [40, 99, 41], [40, 100, 41], [40, 101, 41], [40, 102, 41], [40, 103, 41],
     [40, 104, 41], [40, 105, 41], [40, 106, 41], [40, 107, 41], [40, 108, 41], [40, 109, 41],
     [40, 110, 41], [40, 111, 41], [40, 112, 41], [40, 113, 41], [40, 114, 41], [40, 115, 41],
     [40, 116, 41], [40, 117, 41], [40, 118, 41], [40, 119, 41], [40, 120, 41], [40, 121, 41],
     [40, 122, 41]]⟩, ⟨9450, [[48]]⟩, ⟨10764, [[8747, 8747, 8747, 8747]]⟩, ⟨10868, [[58, 58, 61],
     [61, 61], [61, 61, 61]]⟩, ⟨10972, [[10973, 824]]⟩, ⟨11360, [[11361]]⟩, ⟨11362, [[619], [7549],
     [637]]⟩, ⟨11373, [[593], [625], [592], [594]]⟩, ⟨11378, [[11379]]⟩, ⟨11381, [[11382]]⟩, ⟨11388,
     [[106], [118], [575], [576]]⟩, ⟨11499, [[11500]]⟩, ⟨11501, [[11502]]⟩, ⟨11506, [[11507]]⟩,
   ⟨11631, [[11617]]⟩, ⟨11935, [[27597]]⟩, ⟨12019, [[40863]]⟩, ⟨12032, [[19968], [20008], [20022],
     [20031], [20057], [20101], [20108], [20128], [20154], [20799], [20837], [20843], [20866],
     [20886], [20907], [20960], [20981], [20992], [21147], [21241], [21269], [21274], [21304],
     [21313], [21340], [21353], [21378], [21430], [21448], [21475], [22231], [22303]]⟩, ⟨12064,
     [[22763], [22786], [22794], [22805], [22823], [22899], [23376], [23424], [23544], [23567],
     [23586], [23608], [23662], [23665], [24027], [24037], [24049], [24062], [24178], [24186],
     [24191], [24308], [24318], [24331], [24339], [24400], [24417], [24435], [24515], [25096],
     [25142], [25163]]⟩, ⟨12096, [[25903], [25908], [25991], [26007], [26020], [26041], [26080],
     [26085], [26352], [26376], [26408], [27424], [27490], [27513], [27571], [27595], [27604],
     [27611], [27663], [27668], [27700], [28779], [29226], [29238], [29243], [29247], [29255],
     [29273], [29275], [29356], [29572], [29577]]⟩, ⟨12128, [[29916], [29926], [29976], [29983],
     [29992], [30000], [30091], [30098], [30326], [30333], [30382], [30399], [30446], [30683],
     [30690], [30707], [31034], [31160], [31166], [31348], [31435], [31481], [31859], [31992],
     [32566], [32593], [32650], [32701], [32769], [32780], [32786], [32819]]⟩, ⟨12160, [[32895],
     [32905], [33251], [33258], [33267], [33276], [33292], [33307], [33311], [33390], [33394],
     [33400], [34381], [34411], [34880], [34892], [34915], [35198], [35211], [35282], [35328],
     [35895], [35910], [35925], [35960], [35997], [36196], [36208], [36275], [36523], [36554],
     [36763]]⟩, ⟨12192, [[36784], [36789], [37009], [37193], [37318], [37324], [37329], [38263],
     [38272], [38428], [38582], [38585], [38632], [38737], [38750], [38754], [38761], [38859],
     [38893], [38899], [38913], [39080], [39131], [39135], [39318], [39321], [39340], [39592],
     [39640], [39647], [39717], [39727]]⟩, ⟨12224, [[39730], [39740], [39770], [40165], [40565],
     [40575], [40613], [40635], [40643], [40653], [40657], [40697], [40701], [40718], [40723],
     [40736], [40763], [40778], [40786], [40845], [40860], [40864]]⟩, ⟨12288, [[32]]⟩, ⟨12290,
     [[46]]⟩, ⟨12342, [[12306]]⟩, ⟨12344, [[21313], [21316], [21317]]⟩, ⟨12443, [[32, 12441],
     [32, 12442]]⟩, ⟨12447, [[12424, 12426]]⟩, ⟨12543, [[12467, 12488]]⟩, ⟨12593, [[4352], [4353],
     [4522], [4354], [4524], [4525]]⟩, ⟨12608, [[4378]]⟩, ⟨12612, [[4385]]⟩, ⟨12645, [[4372],
     [4373], [4551], [4552], [4556], [4558], [4563], [4567], [4569], [4380], [4573], [4575], [4381],
     [4382], [4384], [4386], [4387], [4391], [4393]]⟩, ⟨12669, [[4402], [4406], [4416], [4423],
     [4428], [4593], [4594]]⟩, ⟨12679, [[4484], [4485], [4488], [4497], [4498], [4500], [4510],
     [4513]]⟩, ⟨12690, [[19968], [20108], [19977], [22235], [19978], [20013], [19979], [30002],
     [20057], [19993], [19969], [22825], [22320], [20154]]⟩, ⟨12800, [[40, 4352, 41],
     [40, 4354, 41], [40, 4355, 41], [40, 4357, 41], [40, 4358, 41], [40, 4359, 41], [40, 4361, 41],
     [40, 4363, 41], [40, 4364, 41], [40, 4366, 41], [40, 4367, 41], [40, 4368, 41], [40, 4369, 41],
     [40, 4370, 41], [40, 44032, 41], [40, 45208, 41], [40, 45796, 41], [40, 46972, 41],
     [40, 47560, 41], [40, 48148, 41], [40, 49324, 41], [40, 50500, 41], [40, 51088, 41],
     [40, 52264, 41], [40, 52852, 41], [40, 53440, 41], [40, 54028, 41], [40, 54616, 41],
     [40, 51452, 41], [40, 50724, 51204, 41], [40, 50724, 54980, 41]]⟩, ⟨12832, [[40, 19968, 41],
     [40, 20108, 41], [40, 19977, 41], [40, 22235, 41], [40, 20116, 41], [40, 20845, 41],
     [40, 19971, 41], [40, 20843, 41], [40, 20061, 41], [40, 21313, 41], [40, 26376, 41],
     [40, 28779, 41], [40, 27700, 41], [40, 26408, 41], [40, 37329, 41], [40, 22303, 41],
     [40, 26085, 41], [40, 26666, 41], [40, 26377, 41], [40, 31038, 41], [40, 21517, 41],
     [40, 29305, 41], [40, 36001, 41], [40, 31069, 41], [40, 21172, 41], [40, 20195, 41],
     [40, 21628, 41], [40, 23398, 41], [40, 30435, 41], [40, 20225, 41], [40, 36039, 41],
     [40, 21332, 41]]⟩, ⟨12864, [[40, 31085, 41], [40, 20241, 41], [40, 33258, 41], [40, 33267, 41],
     [21839], [24188], [25991], [31631]]⟩, ⟨12880, [[112, 116, 101], [50, 49], [50, 50], [50, 51],
     [50, 52], [50, 53], [50, 54], [50, 55], [50, 56], [50, 57], [51, 48], [51, 49], [51, 50],
     [51, 51], [51, 52], [51, 53], [4352], [4354], [4355]]⟩, ⟨12902, [[4361], [4363], [4364]]⟩,
   ⟨12910, [[44032], [45208], [45796], [46972], [47560], [48148], [49324], [50500], [51088],
     [52264], [52852], [53440], [54028], [54616], [52280, 44256], [51452, 51032], [50864]]⟩, ⟨12928,
     [[19968], [20108], [19977], [22235], [20116], [20845], [19971], [20843], [20061], [21313],
     [26376], [28779], [27700], [26408], [37329], [22303], [26085], [26666], [26377], [31038],
     [21517], [29305], [36001], [31069], [21172], [31192], [30007], [22899], [36969], [20778],
     [21360], [27880]]⟩, ⟨12960, [[38917], [20241], [20889], [27491], [19978], [20013], [19979],
     [24038], [21491], [21307], [23447], [23398], [30435], [20225], [36039], [21332], [22812],
     [51, 54], [51, 55], [51, 56], [51, 57], [52, 48], [52, 49], [52, 50], [52, 51], [52, 52],
     [52, 53], [52, 54], [52, 55], [52, 56], [52, 57], [53, 48]]⟩, ⟨12992, [[49, 26376],
     [50, 26376], [51, 26376], [52, 26376], [53, 26376], [54, 26376], [55, 26376], [56, 26376],
     [57, 26376], [49, 48, 26376], [49, 49, 26376], [49, 50, 26376], [104, 103], [101, 114, 103],
     [101, 118], [108, 116, 100], [12450], [12452], [12454], [12456], [12458], [12459], [12461],
     [12463], [12465], [12467], [12469], [12471], [12473], [12475], [12477], [12479]]⟩, ⟨13024,
     [[12481], [12484], [12486], [12488]]⟩, ⟨13034, [[12498], [12501], [12504], [12507]]⟩]

def blocksThird : List (Block (List Nat)) :=
  [⟨13043, [[12516], [12518]]⟩, ⟨13055, [[20196, 21644], [12450, 12497, 12540, 12488],
     [12450, 12523, 12501, 12449], [12450, 12531, 12506, 12450], [12450, 12540, 12523],
     [12452, 12491, 12531, 12464], [12452, 12531, 12481], [12454, 12457, 12531],
     [12456, 12473, 12463, 12540, 12489], [12456, 12540, 12459, 12540], [12458, 12531, 12473],
     [12458, 12540, 12512], [12459, 12452, 12522], [12459, 12521, 12483, 12488],
     [12459, 12525, 12522, 12540], [12460, 12525, 12531], [12460, 12531, 12510], [12462, 12460],
     [12462, 12491, 12540], [12461, 12517, 12522, 12540], [12462, 12523, 12480, 12540],
     [12461, 12525], [12461, 12525, 12464, 12521, 12512],
     [12461, 12525, 12513, 12540, 12488, 12523], [12461, 12525, 12527, 12483, 12488],
     [12464, 12521, 12512], [12464, 12521, 12512, 12488, 12531],
     [12463, 12523, 12476, 12452, 12525], [12463, 12525, 12540, 12493], [12465, 12540, 12473],
     [12467, 12523, 12490], [12467, 12540, 12509]]⟩, ⟨13087, [[12469, 12452, 12463, 12523],
     [12469, 12531, 12481, 12540, 12512], [12471, 12522, 12531, 12464], [12475, 12531, 12481],
     [12475, 12531, 12488], [12480, 12540, 12473], [12487, 12471], [12489, 12523], [12488, 12531],
     [12490, 12494], [12494, 12483, 12488], [12495, 12452, 12484],
     [12497, 12540, 12475, 12531, 12488], [12497, 12540, 12484], [12496, 12540, 12524, 12523],
     [12500, 12450, 12473, 12488, 12523], [12500, 12463, 12523], [12500, 12467], [12499, 12523],
     [12501, 12449, 12521, 12483, 12489], [12501, 12451, 12540, 12488],
     [12502, 12483, 12471, 12455, 12523], [12501, 12521, 12531],
     [12504, 12463, 12479, 12540, 12523], [12506, 12477], [12506, 12491, 12498],
     [12504, 12523, 12484], [12506, 12531, 12473], [12506, 12540, 12472], [12505, 12540, 12479],
     [12509, 12452, 12531, 12488], [12508, 12523, 12488]]⟩, ⟨13119, [[12507, 12531],
     [12509, 12531, 12489], [12507, 12540, 12523], [12507, 12540, 12531],
     [12510, 12452, 12463, 12525], [12510, 12452, 12523], [12510, 12483, 12495],
     [12510, 12523, 12463], [12510, 12531, 12471, 12519, 12531], [12511, 12463, 12525, 12531],
     [12511, 12522], [12511, 12522, 12496, 12540, 12523], [12513, 12460],
     [12513, 12460, 12488, 12531], [12513, 12540, 12488, 12523], [12516, 12540, 12489],
     [12516, 12540, 12523], [12518, 12450, 12531], [12522, 12483, 12488, 12523], [12522, 12521],
     [12523, 12500, 12540], [12523, 12540, 12502, 12523], [12524, 12512],
     [12524, 12531, 12488, 12466, 12531], [12527, 12483, 12488], [48, 28857], [49, 28857],
     [50, 28857], [51, 28857], [52, 28857], [53, 28857], [54, 28857]]⟩, ⟨13151, [[55, 28857],
     [56, 28857], [57, 28857], [49, 48, 28857], [49, 49, 28857], [49, 50, 28857], [49, 51, 28857],
     [49, 52, 28857], [49, 53, 28857], [49, 54, 28857], [49, 55, 28857], [49, 56, 28857],
     [49, 57, 28857], [50, 48, 28857], [50, 49, 28857], [50, 50, 28857], [50, 51, 28857],
     [50, 52, 28857], [104, 112, 97], [100, 97], [97, 117], [98, 97, 114], [111, 118], [112, 99],
     [100, 109], [100, 109, 50], [100, 109, 51], [105, 117], [24179, 25104], [26157, 21644],
     [22823, 27491], [26126, 27835]]⟩, ⟨13183, [[26666, 24335, 20250, 31038], [112, 97], [110, 97],
     [956, 97], [109, 97], [107, 97], [107, 98], [109, 98], [103, 98], [99, 97, 108],
     [107, 99, 97, 108], [112, 102], [110, 102], [956, 102], [956, 103], [109, 103], [107, 103],
     [104, 122], [107, 104, 122], [109, 104, 122], [103, 104, 122], [116, 104, 122], [956, 108],
     [109, 108], [100, 108], [107, 108], [102, 109], [110, 109], [956, 109], [109, 109], [99, 109],
     [107, 109]]⟩, ⟨13215, [[109, 109, 50], [99, 109, 50], [109, 50], [107, 109, 50],
     [109, 109, 51], [99, 109, 51], [109, 51], [107, 109, 51], [109, 8725, 115],
     [109, 8725, 115, 50], [112, 97], [107, 112, 97], [109, 112, 97], [103, 112, 97],
     [114, 97, 100], [114, 97, 100, 8725, 115], [114, 97, 100, 8725, 115, 50], [112, 115],
     [110, 115], [956, 115], [109, 115], [112, 118], [110, 118], [956, 118], [109, 118], [107, 118],
     [109, 118], [112, 119], [110, 119], [956, 119], [109, 119], [107, 119]]⟩, ⟨13247, [[109, 119],
     [107, 969], [109, 969]]⟩, ⟨13251, [[98, 113], [99, 99], [99, 100], [99, 8725, 107, 103]]⟩,
   ⟨13256, [[100, 98], [103, 121], [104, 97], [104, 112], [105, 110], [107, 107], [107, 109],
     [107, 116], [108, 109], [108, 110], [108, 111, 103], [108, 120], [109, 98], [109, 105, 108],
     [109, 111, 108], [112, 104]]⟩, ⟨13273, [[112, 112, 109], [112, 114], [115, 114], [115, 118],
     [119, 98], [118, 8725, 109], [97, 8725, 109], [49, 26085], [50, 26085], [51, 26085],
     [52, 26085], [53, 26085], [54, 26085], [55, 26085], [56, 26085], [57, 26085], [49, 48, 26085],
     [49, 49, 26085], [49, 50, 26085], [49, 51, 26085], [49, 52, 26085], [49, 53, 26085],
     [49, 54, 26085], [49, 55, 26085], [49, 56, 26085], [49, 57, 26085], [50, 48, 26085],
     [50, 49, 26085], [50, 50, 26085], [50, 51, 26085], [50, 52, 26085], [50, 53, 26085]]⟩, ⟨13305,
     [[50, 54, 26085], [50, 55, 26085], [50, 56, 26085], [50, 57, 26085], [51, 48, 26085],
     [51, 49, 26085], [103, 97, 108]]⟩, ⟨42652, [[1098], [1100]]⟩, ⟨42864, [[42863]]⟩, ⟨42873,
     [[42874]]⟩, ⟨42875, [[42876]]⟩, ⟨42877, [[7545]]⟩, ⟨42891, [[42892]]⟩, ⟨42893, [[613]]⟩,
   ⟨42896, [[42897]]⟩, ⟨42898, [[42899]]⟩, ⟨42922, [[614], [604], [609], [620], [618]]⟩, ⟨42928,
     [[670], [647], [669], [43859]]⟩, ⟨42948, [[42900], [642], [7566], [42952]]⟩, ⟨42953,
     [[42954]]⟩, ⟨42955, [[612]]⟩, ⟨42972, [[411]]⟩, ⟨42993, [[115], [99], [102], [113], [42998]]⟩,
   ⟨43000, [[295], [339]]⟩, ⟨43868, [[42791], [43831], [619], [43858]]⟩, ⟨43881, [[653]]⟩, ⟨63744,
     [[35912], [26356], [36554], [36040], [28369], [20018], [21477], [40860], [40860], [22865],
     [37329], [21895], [22856], [25078], [30313], [32645], [34367], [34746], [35064], [37007],
     [27138], [27931], [28889], [29662], [33853], [37226], [39409], [20098], [21365], [27396],
     [29211], [34349]]⟩, ⟨63776, [[40478], [23888], [28651], [34253], [35172], [25289], [33240],
     [34847], [24266], [26391], [28010], [29436], [37070], [20358], [20919], [21214], [25796],
     [27347], [29200], [30439], [32769], [34310], [34396], [36335], [38706], [39791], [40442],
     [30860], [31103], [32160], [33737], [37636]]⟩, ⟨63808, [[40575], [35542], [22751], [24324],
     [31840], [32894], [29282], [30922], [36034], [38647], [22744], [23650], [27155], [28122],
     [28431], [32047], [32311], [38475], [21202], [32907], [20956], [20940], [31260], [32190],
     [33777], [38517], [35712], [25295], [27138], [35582], [20025], [23527]]⟩, ⟨63840, [[24594],
     [29575], [30064], [21271], [30971], [20415], [24489], [19981], [27852], [25976], [32034],
     [21443], [22622], [30465], [33865], [35498], [27578], [36784], [27784], [25342], [33509],
     [25504], [30053], [20142], [20841], [20937], [26753], [31975], [33391], [35538], [37327],
     [21237]]⟩, ⟨63872, [[21570], [22899], [24300], [26053], [28670], [31018], [38317], [39530],
     [40599], [40654], [21147], [26310], [27511], [36706], [24180], [24976], [25088], [25754],
     [28451], [29001], [29833], [31178], [32244], [32879], [36646], [34030], [36899], [37706],
     [21015], [21155], [21693], [28872]]⟩, ⟨63904, [[35010], [35498], [24265], [24565], [25467],
     [27566], [31806], [29557], [20196], [22265], [23527], [23994], [24604], [29618], [29801],
     [32666], [32838], [37428], [38646], [38728], [38936], [20363], [31150], [37300], [38584],
     [24801], [20102], [20698], [23534], [23615], [26009], [27138]]⟩, ⟨63936, [[29134], [30274],
     [34044], [36988], [40845], [26248], [38446], [21129], [26491], [26611], [27969], [28316],
     [29705], [30041], [30827], [32016], [39006], [20845], [25134], [38520], [20523], [23833],
     [28138], [36650], [24459], [24900], [26647], [29575], [38534], [21033], [21519], [23653]]⟩,
   ⟨63968, [[26131], [26446], [26792], [27877], [29702], [30178], [32633], [35023], [35041],
     [37324], [38626], [21311], [28346], [21533], [29136], [29848], [34298], [38563], [40023],
     [40607], [26519], [28107], [33256], [31435], [31520], [31890], [29376], [28825], [35672],
     [20160], [33590], [21050]]⟩, ⟨64000, [[20999], [24230], [25299], [31958], [23429], [27934],
     [26292], [36667], [34892], [38477], [35211], [24275], [20800], [21952]]⟩, ⟨64016, [[22618]]⟩,
   ⟨64018, [[26228]]⟩, ⟨64021, [[20958], [29482], [30410], [31036], [31070], [31077], [31119],
     [38742], [31934], [32701]]⟩, ⟨64032, [[34322]]⟩, ⟨64034, [[35576]]⟩, ⟨64037, [[36920],
     [37117]]⟩, ⟨64042, [[39151], [39164], [39208], [40372], [37086], [38583], [20398], [20711],
     [20813], [21193], [21220], [21329], [21917], [22022], [22120], [22592], [22696], [23652],
     [23662], [24724], [24936], [24974], [25074], [25935], [26082], [26257], [26757], [28023],
     [28186], [28450], [29038], [29227]]⟩, ⟨64074, [[29730], [30865], [31038], [31049], [31048],
     [31056], [31062], [31069], [31117], [31118], [31296], [31361], [31680], [32244], [32265],
     [32321], [32626], [32773], [33261], [33401], [33401], [33879], [35088], [35222], [35585],
     [35641], [36051], [36104], [36790], [36920], [38627], [38911]]⟩, ⟨64106, [[38971], [24693],
     [148206], [33304]]⟩, ⟨64112, [[20006], [20917], [20840], [20352], [20805], [20864], [21191],
     [21242], [21917], [21845], [21913], [21986], [22618], [22707], [22852], [22868], [23138],
     [23336], [24274], [24281], [24425], [24493], [24792], [24910], [24840], [24974], [24928],
     [25074], [25140], [25540], [25628], [25682]]⟩, ⟨64144, [[25942], [26228], [26391], [26395],
     [26454], [27513], [27578], [27969], [28379], [28363], [28450], [28702], [29038], [30631],
     [29237], [29359], [29482], [29809], [29958], [30011], [30237], [30239], [30410], [30427],
     [30452], [30538], [30528], [30924], [31409], [31680], [31867], [32091]]⟩, ⟨64176, [[32244],
     [32574], [32773], [33618], [33775], [34681], [35137], [35206], [35222], [35519], [35576],
     [35531], [35585], [35582], [35565], [35641], [35722], [36104], [36664], [36978], [37273],
     [37494], [38524], [38627], [38742], [38875], [38911], [38923], [38971], [39698], [40860],
     [141386]]⟩, ⟨64208, [[141380], [144341], [15261], [16408], [16441], [152137], [154832],
     [163539], [40771], [40846]]⟩, ⟨64256, [[102, 102], [102, 105], [102, 108], [102, 102, 105],
     [102, 102, 108], [115, 116], [115, 116]]⟩, ⟨64275, [[1396, 1398], [1396, 1381], [1396, 1387],
     [1406, 1398], [1396, 1389]]⟩, ⟨64285, [[1497, 1460]]⟩, ⟨64287, [[1522, 1463], [1506], [1488],
     [1491], [1492]]⟩, ⟨64295, [[1512], [1514], [43], [1513, 1473], [1513, 1474],
     [1513, 1468, 1473], [1513, 1468, 1474], [1488, 1463], [1488, 1464], [1488, 1468], [1489, 1468],
     [1490, 1468], [1491, 1468], [1492, 1468], [1493, 1468], [1494, 1468]]⟩, ⟨64312, [[1496, 1468],
     [1497, 1468], [1498, 1468], [1499, 1468], [1500, 1468]]⟩, ⟨64318, [[1502, 1468]]⟩, ⟨64320,
     [[1504, 1468], [1505, 1468]]⟩, ⟨64323, [[1507, 1468], [1508, 1468]]⟩, ⟨64326, [[1510, 1468],
     [1511, 1468], [1512, 1468], [1513, 1468], [1514, 1468], [1493, 1465], [1489, 1471],
     [1499, 1471], [1508, 1471], [1488, 1500], [1649], [1649], [1659], [1659], [1659], [1659],
     [1662], [1662], [1662], [1662], [1664], [1664], [1664], [1664], [1658], [1658], [1658], [1658],
     [1663], [1663], [1663], [1663]]⟩, ⟨64358, [[1657], [1657], [1657], [1657], [1700], [1700],
     [1700], [1700], [1702], [1702], [1702], [1702], [1668], [1668], [1668], [1668], [1667], [1667],
     [1667], [1667], [1670], [1670], [1670], [1670], [1671], [1671], [1671], [1671], [1677], [1677],
     [1676], [1676]]⟩, ⟨64390, [[1678], [1678], [1672], [1672], [1688], [1688], [1681], [1681],
     [1705], [1705], [1705], [1705], [1711], [1711], [1711], [1711], [1715], [1715], [1715], [1715],
     [1713], [1713], [1713], [1713], [1722], [1722], [1723], [1723], [1723], [1723], [1728],
     [1728]]⟩, ⟨64422, [[1729], [1729], [1729], [1729], [1726], [1726], [1726], [1726], [1746],
     [1746], [1747], [1747]]⟩, ⟨64467, [[1709], [1709], [1709], [1709], [1735], [1735], [1734],
     [1734], [1736], [1736], [1735, 1652], [1739], [1739], [1733], [1733], [1737], [1737], [1744],
     [1744], [1744], [1744], [1609], [1609], [1574, 1575], [1574, 1575], [1574, 1749], [1574, 1749],
     [1574, 1608], [1574, 1608], [1574, 1735], [1574, 1735], [1574, 1734]]⟩, ⟨64499, [[1574, 1734],
     [1574, 1736], [1574, 1736], [1574, 1744], [1574, 1744], [1574, 1744], [1574, 1609],
     [1574, 1609], [1574, 1609], [1740], [1740], [1740], [1740], [1574, 1580], [1574, 1581],
     [1574, 1605], [1574, 1609], [1574, 1610], [1576, 1580], [1576, 1581], [1576, 1582],
     [1576, 1605], [1576, 1609], [1576, 1610], [1578, 1580], [1578, 1581], [1578, 1582],
     [1578, 1605], [1578, 1609], [1578, 1610], [1579, 1580], [1579, 1605]]⟩, ⟨64531, [[1579, 1609],
     [1579, 1610], [1580, 1581], [1580, 1605], [1581, 1580], [1581, 1605], [1582, 1580],
     [1582, 1581], [1582, 1605], [1587, 1580], [1587, 1581], [1587, 1582], [1587, 1605],
     [1589, 1581], [1589, 1605], [1590, 1580], [1590, 1581], [1590, 1582], [1590, 1605],
     [1591, 1581], [1591, 1605], [1592, 1605], [1593, 1580], [1593, 1605], [1594, 1580],
     [1594, 1605], [1601, 1580], [1601, 1581], [1601, 1582], [1601, 1605], [1601, 1609],
     [1601, 1610]]⟩, ⟨64563, [[1602, 1581], [1602, 1605], [1602, 1609], [1602, 1610], [1603, 1575],
     [1603, 1580], [1603, 1581], [1603, 1582], [1603, 1604], [1603, 1605], [1603, 1609],
     [1603, 1610], [1604, 1580], [1604, 1581], [1604, 1582], [1604, 1605], [1604, 1609],
     [1604, 1610], [1605, 1580], [1605, 1581], [1605, 1582], [1605, 1605], [1605, 1609],
     [1605, 1610], [1606, 1580], [1606, 1581], [1606, 1582], [1606, 1605], [1606, 1609],
     [1606, 1610], [1607, 1580], [1607, 1605]]⟩, ⟨64595, [[1607, 1609], [1607, 1610], [1610, 1580],
     [1610, 1581], [1610, 1582], [1610, 1605], [1610, 1609], [1610, 1610], [1584, 1648],
     [1585, 1648], [1609, 1648], [32, 1612, 1617], [32, 1613, 1617], [32, 1614, 1617],
     [32, 1615, 1617], [32, 1616, 1617], [32, 1617, 1648], [1574, 1585], [1574, 1586], [1574, 1605],
     [1574, 1606], [1574, 1609], [1574, 1610], [1576, 1585], [1576, 1586], [1576, 1605],
     [1576, 1606], [1576, 1609], [1576, 1610], [1578, 1585], [1578, 1586], [1578, 1605]]⟩, ⟨64627,
     [[1578, 1606], [1578, 1609], [1578, 1610], [1579, 1585], [1579, 1586], [1579, 1605],
     [1579, 1606], [1579, 1609], [1579, 1610], [1601, 1609], [1601, 1610], [1602, 1609],
     [1602, 1610], [1603, 1575], [1603, 1604], [1603, 1605], [1603, 1609], [1603, 1610],
     [1604, 1605], [1604, 1609], [1604, 1610], [1605, 1575], [1605, 1605], [1606, 1585],
     [1606, 1586], [1606, 1605], [1606, 1606], [1606, 1609], [1606, 1610], [1609, 1648],
     [1610, 1585], [1610, 1586]]⟩, ⟨64659, [[1610, 1605], [1610, 1606], [1610, 1609], [1610, 1610],
     [1574, 1580], [1574, 1581], [1574, 1582], [1574, 1605], [1574, 1607], [1576, 1580],
     [1576, 1581], [1576, 1582], [1576, 1605], [1576, 1607], [1578, 1580], [1578, 1581],
     [1578, 1582], [1578, 1605], [1578, 1607], [1579, 1605], [1580, 1581], [1580, 1605],
     [1581, 1580], [1581, 1605], [1582, 1580], [1582, 1605], [1587, 1580], [1587, 1581],
     [1587, 1582], [1587, 1605], [1589, 1581], [1589, 1582]]⟩, ⟨64691, [[1589, 1605], [1590, 1580],
     [1590, 1581], [1590, 1582], [1590, 1605], [1591, 1581], [1592, 1605], [1593, 1580],
     [1593, 1605], [1594, 1580], [1594, 1605], [1601, 1580], [1601, 1581], [1601, 1582],
     [1601, 1605], [1602, 1581], [1602, 1605], [1603, 1580], [1603, 1581], [1603, 1582],
     [1603, 1604], [1603, 1605], [1604, 1580], [1604, 1581], [1604, 1582], [1604, 1605],
     [1604, 1607], [1605, 1580], [1605, 1581], [1605, 1582], [1605, 1605], [1606, 1580]]⟩, ⟨64723,
     [[1606, 1581], [1606, 1582], [1606, 1605], [1606, 1607], [1607, 1580], [1607, 1605],
     [1607, 1648], [1610, 1580], [1610, 1581], [1610, 1582], [1610, 1605], [1610, 1607],
     [1574, 1605], [1574, 1607], [1576, 1605], [1576, 1607], [1578, 1605], [1578, 1607],
     [1579, 1605], [1579, 1607], [1587, 1605], [1587, 1607], [1588, 1605], [1588, 1607],
     [1603, 1604], [1603, 1605], [1604, 1605], [1606, 1605], [1606, 1607], [1610, 1605],
     [1610, 1607], [1600, 1614, 1617]]⟩, ⟨64755, [[1600, 1615, 1617], [1600, 1616, 1617],
     [1591, 1609], [1591, 1610], [1593, 1609], [1593, 1610], [1594, 1609], [1594, 1610],
     [1587, 1609], [1587, 1610], [1588, 1609], [1588, 1610], [1581, 1609], [1581, 1610],
     [1580, 1609], [1580, 1610], [1582, 1609], [1582, 1610], [1589, 1609], [1589, 1610],
     [1590, 1609], [1590, 1610], [1588, 1580], [1588, 1581], [1588, 1582], [1588, 1605],
     [1588, 1585], [1587, 1585], [1589, 1585], [1590, 1585], [1591, 1609], [1591, 1610]]⟩, ⟨64787,
     [[1593, 1609], [1593, 1610], [1594, 1609], [1594, 1610], [1587, 1609], [1587, 1610],
     [1588, 1609], [1588, 1610], [1581, 1609], [1581, 1610], [1580, 1609], [1580, 1610],
     [1582, 1609], [1582, 1610], [1589, 1609], [1589, 1610], [1590, 1609], [1590, 1610],
     [1588, 1580], [1588, 1581], [1588, 1582], [1588, 1605], [1588, 1585], [1587, 1585],
     [1589, 1585], [1590, 1585], [1588, 1580], [1588, 1581], [1588, 1582], [1588, 1605],
     [1587, 1607], [1588, 1607]]⟩, ⟨64819, [[1591, 1605], [1587, 1580], [1587, 1581], [1587, 1582],
     [1588, 1580], [1588, 1581], [1588, 1582], [1591, 1605], [1592, 1605], [1575, 1611],
     [1575, 1611]]⟩, ⟨64848, [[1578, 1580, 1605], [1578, 1581, 1580], [1578, 1581, 1580],
     [1578, 1581, 1605], [1578, 1582, 1605], [1578, 1605, 1580], [1578, 1605, 1581],
     [1578, 1605, 1582], [1580, 1605, 1581], [1580, 1605, 1581], [1581, 1605, 1610],
     [1581, 1605, 1609], [1587, 1581, 1580], [1587, 1580, 1581], [1587, 1580, 1609],
     [1587, 1605, 1581], [1587, 1605, 1581], [1587, 1605, 1580], [1587, 1605, 1605],
     [1587, 1605, 1605], [1589, 1581, 1581], [1589, 1581, 1581], [1589, 1605, 1605],
     [1588, 1581, 1605], [1588, 1581, 1605], [1588, 1580, 1610], [1588, 1605, 1582],
     [1588, 1605, 1582], [1588, 1605, 1605], [1588, 1605, 1605], [1590, 1581, 1609],
     [1590, 1582, 1605]]⟩, ⟨64880, [[1590, 1582, 1605], [1591, 1605, 1581], [1591, 1605, 1581],
     [1591, 1605, 1605], [1591, 1605, 1610], [1593, 1580, 1605], [1593, 1605, 1605],
     [1593, 1605, 1605], [1593, 1605, 1609], [1594, 1605, 1605], [1594, 1605, 1610],
     [1594, 1605, 1609], [1601, 1582, 1605], [1601, 1582, 1605], [1602, 1605, 1581],
     [1602, 1605, 1605], [1604, 1581, 1605], [1604, 1581, 1610], [1604, 1581, 1609],
     [1604, 1580, 1580], [1604, 1580, 1580], [1604, 1582, 1605], [1604, 1582, 1605],
     [1604, 1605, 1581], [1604, 1605, 1581], [1605, 1581, 1580], [1605, 1581, 1605],
     [1605, 1581, 1610], [1605, 1580, 1581], [1605, 1580, 1605], [1605, 1582, 1580],
     [1605, 1582, 1605]]⟩, ⟨64914, [[1605, 1580, 1582], [1607, 1605, 1580], [1607, 1605, 1605],
     [1606, 1581, 1605], [1606, 1581, 1609], [1606, 1580, 1605], [1606, 1580, 1605],
     [1606, 1580, 1609], [1606, 1605, 1610], [1606, 1605, 1609], [1610, 1605, 1605],
     [1610, 1605, 1605], [1576, 1582, 1610], [1578, 1580, 1610], [1578, 1580, 1609],
     [1578, 1582, 1610], [1578, 1582, 1609], [1578, 1605, 1610], [1578, 1605, 1609],
     [1580, 1605, 1610], [1580, 1581, 1609], [1580, 1605, 1609], [1587, 1582, 1609],
     [1589, 1581, 1610], [1588, 1581, 1610], [1590, 1581, 1610], [1604, 1580, 1610],
     [1604, 1605, 1610], [1610, 1581, 1610], [1610, 1580, 1610], [1610, 1605, 1610],
     [1605, 1605, 1610]]⟩, ⟨64946, [[1602, 1605, 1610], [1606, 1581, 1610], [1602, 1605, 1581],
     [1604, 1581, 1605], [1593, 1605, 1610], [1603, 1605, 1610], [1606, 1580, 1581],
     [1605, 1582, 1610], [1604, 1580, 1605], [1603, 1605, 1605], [1604, 1580, 1605],
     [1606, 1580, 1581], [1580, 1581, 1610], [1581, 1580, 1610], [1605, 1580, 1610],
     [1601, 1605, 1610], [1576, 1581, 1610], [1603, 1605, 1605], [1593, 1580, 1605],
     [1589, 1605, 1605], [1587, 1582, 1610], [1606, 1580, 1610]]⟩, ⟨65008, [[1589, 1604, 1746],
     [1602, 1604, 1746], [1575, 1604, 1604, 1607], [1575, 1603, 1576, 1585],
     [1605, 1581, 1605, 1583], [1589, 1604, 1593, 1605], [1585, 1587, 1608, 1604],
     [1593, 1604, 1610, 1607], [1608, 1587, 1604, 1605], [1589, 1604, 1609], [1589, 1604, 1609, 32,
     1575, 1604, 1604, 1607, 32, 1593, 1604, 1610, 1607, 32, 1608, 1587, 1604, 1605],
     [1580, 1604, 32, 1580, 1604, 1575, 1604, 1607], [1585, 1740, 1575, 1604]]⟩, ⟨65040, [[44],
     [12289]]⟩, ⟨65043, [[58], [59], [33], [63], [12310], [12311]]⟩, ⟨65073, [[8212], [8211], [95],
     [95], [40], [41], [123], [125], [12308], [12309], [12304], [12305], [12298], [12299], [12296],
     [12297]]⟩, ⟨65095, [[91], [93], [32, 773], [32, 773], [32, 773], [32, 773], [95], [95], [95],
     [44], [12289]]⟩, ⟨65108, [[59], [58], [63], [33], [8212], [40], [41], [123], [125], [12308],
     [12309], [35], [38], [42], [43], [45], [60], [62], [61]]⟩, ⟨65128, [[92], [36], [37], [64]]⟩,
   ⟨65136, [[32, 1611], [1600, 1611], [32, 1612]]⟩, ⟨65140, [[32, 1613]]⟩, ⟨65142, [[32, 1614],
     [1600, 1614], [32, 1615], [1600, 1615], [32, 1616], [1600, 1616], [32, 1617], [1600, 1617],
     [32, 1618], [1600, 1618], [1569], [1570], [1570], [1571], [1571], [1572], [1572], [1573],
     [1573], [1574], [1574], [1574], [1574], [1575], [1575], [1576], [1576], [1576], [1576], [1577],
     [1577], [1578]]⟩, ⟨65174, [[1578], [1578], [1578], [1579], [1579], [1579], [1579], [1580],
     [1580], [1580], [1580], [1581], [1581], [1581], [1581], [1582], [1582], [1582], [1582], [1583],
     [1583], [1584], [1584], [1585], [1585], [1586], [1586], [1587], [1587], [1587], [1587],
     [1588]]⟩, ⟨65206, [[1588], [1588], [1588], [1589], [1589], [1589], [1589], [1590], [1590],
     [1590], [1590], [1591], [1591], [1591], [1591], [1592], [1592], [1592], [1592], [1593], [1593],
     [1593], [1593], [1594], [1594], [1594], [1594], [1601], [1601], [1601], [1601], [1602]]⟩,
   ⟨65238, [[1602], [1602], [1602], [1603], [1603], [1603], [1603], [1604], [1604], [1604], [1604],
     [1605], [1605], [1605], [1605], [1606], [1606], [1606], [1606], [1607], [1607], [1607], [1607],
     [1608], [1608], [1609], [1609], [1610], [1610], [1610], [1610], [1604, 1570]]⟩, ⟨65270,
     [[1604, 1570], [1604, 1571], [1604, 1571], [1604, 1573], [1604, 1573], [1604, 1575],
     [1604, 1575]]⟩, ⟨65375, [[10629], [10630], [46], [12300], [12301], [12289], [12539], [12530],
     [12449], [12451], [12453], [12455], [12457], [12515], [12517], [12519], [12483], [12540],
     [12450], [12452], [12454], [12456], [12458], [12459], [12461], [12463], [12465], [12467],
     [12469], [12471], [12473], [12475]]⟩, ⟨65407, [[12477], [12479], [12481], [12484], [12486],
     [12488]]⟩, ⟨65419, [[12498], [12501], [12504], [12507]]⟩, ⟨65428, [[12516], [12518]]⟩, ⟨65436,
     [[12527], [12531], [12441], [12442]]⟩, ⟨65441, [[4352], [4353], [4522], [4354], [4524],
     [4525]]⟩, ⟨65456, [[4378]]⟩, ⟨65460, [[4385]]⟩, ⟨65504, [[162], [163], [172], [32, 772], [166],
     [165], [8361]]⟩, ⟨65512, [[9474]]⟩]

def blocksFourth : List (Block (List Nat)) :=
  [⟨65517, [[9632], [9675]]⟩, ⟨66965, [[67004]]⟩, ⟨67457, [[720], [721], [230], [665], [595]]⟩,
   ⟨67463, [[675], [43878], [677], [676], [598], [599], [7569], [600], [606], [681], [612], [610],
     [608], [667], [295], [668], [615], [644], [682], [683], [620], [122628], [42894], [622],
     [122629], [654], [122630], [248], [630], [631], [113], [634]]⟩, ⟨67495, [[122632], [637],
     [638], [640], [680], [678], [43879], [679], [648], [11377]]⟩, ⟨67506, [[655], [673], [674],
     [664]]⟩, ⟨67513, [[122634], [122654]]⟩, ⟨119134, [[119127, 119141], [119128, 119141],
     [119128, 119141, 119150], [119128, 119141, 119151], [119128, 119141, 119152],
     [119128, 119141, 119153], [119128, 119141, 119154]]⟩, ⟨119227, [[119225, 119141],
     [119226, 119141], [119225, 119141, 119150], [119226, 119141, 119150], [119225, 119141, 119151],
     [119226, 119141, 119151]]⟩, ⟨119964, [[97]]⟩, ⟨119966, [[99], [100]]⟩, ⟨119970, [[103]]⟩,
   ⟨119973, [[106], [107]]⟩, ⟨120068, [[97]]⟩, ⟨120072, [[101]]⟩, ⟨120074, [[103]]⟩, ⟨120120,
     [[97]]⟩, ⟨120129, [[106]]⟩, ⟨120131, [[108]]⟩, ⟨120484, [[305], [567]]⟩, ⟨120505, [[952]]⟩,
   ⟨120513, [[8711]]⟩, ⟨120531, [[963]]⟩, ⟨120539, [[8706], [949], [952], [954], [966], [961],
     [960]]⟩, ⟨120563, [[952]]⟩, ⟨120571, [[8711]]⟩, ⟨120589, [[963]]⟩, ⟨120597, [[8706], [949],
     [952], [954], [966], [961], [960]]⟩, ⟨120621, [[952]]⟩, ⟨120629, [[8711]]⟩, ⟨120647, [[963]]⟩,
   ⟨120655, [[8706], [949], [952], [954], [966], [961], [960]]⟩, ⟨120679, [[952]]⟩, ⟨120687,
     [[8711]]⟩, ⟨120705, [[963]]⟩, ⟨120713, [[8706], [949], [952], [954], [966], [961], [960]]⟩,
   ⟨120737, [[952]]⟩, ⟨120745, [[8711]]⟩, ⟨120763, [[963]]⟩, ⟨120771, [[8706], [949], [952], [954],
     [966], [961], [960], [989], [989]]⟩, ⟨122951, [[1099], [1101], [1102], [42633], [1241], [1110],
     [1112], [1257], [1199], [1231]]⟩, ⟨122970, [[1082], [1083], [1086], [1087], [1089]]⟩, ⟨122981,
     [[1098], [1099], [1169], [1110], [1109], [1119], [1195], [42577], [1201]]⟩, ⟨126464, [[1575],
     [1576], [1580], [1583]]⟩, ⟨126469, [[1608], [1586], [1581], [1591], [1610]]⟩, ⟨126478, [[1587],
     [1593], [1601], [1589], [1602], [1585], [1588], [1578], [1579], [1582], [1584], [1590], [1592],
     [1594], [1646], [1722], [1697], [1647]]⟩, ⟨126497, [[1576], [1580]]⟩, ⟨126500, [[1607]]⟩,
   ⟨126503, [[1581]]⟩, ⟨126505, [[1610]]⟩, ⟨126510, [[1587], [1593], [1601], [1589], [1602]]⟩,
   ⟨126516, [[1588], [1578], [1579], [1582]]⟩, ⟨126521, [[1590]]⟩, ⟨126523, [[1594]]⟩, ⟨126530,
     [[1580]]⟩, ⟨126535, [[1581]]⟩, ⟨126537, [[1610]]⟩, ⟨126539, [[1604]]⟩, ⟨126541, [[1606],
     [1587], [1593]]⟩, ⟨126545, [[1589], [1602]]⟩, ⟨126548, [[1588]]⟩, ⟨126551, [[1582]]⟩, ⟨126553,
     [[1590]]⟩, ⟨126555, [[1594]]⟩, ⟨126557, [[1722]]⟩, ⟨126559, [[1647]]⟩, ⟨126561, [[1576],
     [1580]]⟩, ⟨126564, [[1607]]⟩, ⟨126567, [[1581], [1591], [1610], [1603]]⟩, ⟨126572, [[1605],
     [1606], [1587], [1593], [1601], [1589], [1602]]⟩, ⟨126580, [[1588], [1578], [1579], [1582]]⟩,
   ⟨126585, [[1590], [1592], [1594], [1646]]⟩, ⟨126590, [[1697]]⟩, ⟨126592, [[1575], [1576], [1580],
     [1583], [1607], [1608], [1586], [1581], [1591], [1610]]⟩, ⟨126606, [[1587], [1593], [1601],
     [1589], [1602], [1585], [1588], [1578], [1579], [1582], [1584], [1590], [1592], [1594]]⟩,
   ⟨126625, [[1576], [1580], [1583]]⟩, ⟨126629, [[1608], [1586], [1581], [1591], [1610]]⟩, ⟨126638,
     [[1587], [1593], [1601], [1589], [1602], [1585], [1588], [1578], [1579], [1582], [1584],
     [1590], [1592], [1594]]⟩, ⟨127233, [[48, 44], [49, 44], [50, 44], [51, 44], [52, 44], [53, 44],
     [54, 44], [55, 44], [56, 44], [57, 44]]⟩, ⟨127248, [[40, 97, 41], [40, 98, 41], [40, 99, 41],
     [40, 100, 41], [40, 101, 41], [40, 102, 41], [40, 103, 41], [40, 104, 41], [40, 105, 41],
     [40, 106, 41], [40, 107, 41], [40, 108, 41], [40, 109, 41], [40, 110, 41], [40, 111, 41],
     [40, 112, 41], [40, 113, 41], [40, 114, 41], [40, 115, 41], [40, 116, 41], [40, 117, 41],
     [40, 118, 41], [40, 119, 41], [40, 120, 41], [40, 121, 41], [40, 122, 41], [12308, 115, 12309],
     [99], [114], [99, 100], [119, 122]]⟩, ⟨127306, [[104, 118], [109, 118], [115, 100], [115, 115],
     [112, 112, 118], [119, 99]]⟩, ⟨127338, [[109, 99], [109, 100], [109, 114]]⟩, ⟨127376,
     [[100, 106]]⟩, ⟨127488, [[12411, 12363], [12467, 12467], [12469]]⟩, ⟨127504, [[25163], [23383],
     [21452], [12487], [20108], [22810], [35299], [22825], [20132], [26144], [28961], [26009],
     [21069], [24460], [20877], [26032], [21021], [32066], [29983], [36009], [22768], [21561],
     [28436], [25237], [25429], [19968], [19977], [36938], [24038], [20013], [21491], [25351]]⟩,
   ⟨127536, [[36208], [25171], [31105], [31354], [21512], [28288], [26377], [26376], [30003],
     [21106], [21942], [37197]]⟩, ⟨127552, [[12308, 26412, 12309], [12308, 19977, 12309],
     [12308, 20108, 12309], [12308, 23433, 12309], [12308, 28857, 12309], [12308, 25171, 12309],
     [12308, 30423, 12309], [12308, 21213, 12309], [12308, 25943, 12309]]⟩, ⟨127568, [[24471],
     [21487]]⟩, ⟨194560, [[20029], [20024], [20033], [131362], [20320], [20398], [20411], [20482],
     [20602], [20633], [20711], [20687], [13470], [132666], [20813], [20820], [20836], [20855],
     [132380], [13497], [20839], [20877], [132427], [20887], [20900], [20172], [20908], [20917],
     [168415], [20981], [20995], [13535]]⟩, ⟨194592, [[21051], [21062], [21106], [21111], [13589],
     [21191], [21193], [21220], [21242], [21253], [21254], [21271], [21321], [21329], [21338],
     [21363], [21373], [21375], [21375], [21375], [133676], [28784], [21450], [21471], [133987],
     [21483], [21489], [21510], [21662], [21560], [21576], [21608]]⟩, ⟨194624, [[21666], [21750],
     [21776], [21843], [21859], [21892], [21892], [21913], [21931], [21939], [21954], [22294],
     [22022], [22295], [22097], [22132], [20999], [22766], [22478], [22516], [22541], [22411],
     [22578], [22577], [22700], [136420], [22770], [22775], [22790], [22810], [22818], [22882]]⟩,
   ⟨194656, [[136872], [136938], [23020], [23067], [23079], [23000], [23142], [14062], [14076],
     [23304], [23358], [23358], [137672], [23491], [23512], [23527], [23539], [138008], [23551],
     [23558], [24403], [23586], [14209], [23648], [23662], [23744], [23693], [138724], [23875],
     [138726], [23918], [23915]]⟩, ⟨194688, [[23932], [24033], [24034], [14383], [24061], [24104],
     [24125], [24169], [14434], [139651], [14460], [24240], [24243], [24246], [24266], [172946],
     [24318], [140081], [140081], [33281], [24354], [24354], [14535], [144056], [156122], [24418],
     [24427], [14563], [24474], [24525], [24535], [24569]]⟩, ⟨194720, [[24705], [14650], [14620],
     [24724], [141012], [24775], [24904], [24908], [24910], [24908], [24954], [24974], [25010],
     [24996], [25007], [25054], [25074], [25078], [25104], [25115], [25181], [25265], [25300],
     [25424], [142092], [25405], [25340], [25448], [25475], [25572], [142321], [25634]]⟩, ⟨194752,
     [[25541], [25513], [14894], [25705], [25726], [25757], [25719], [14956], [25935], [25964],
     [143370], [26083], [26360], [26185], [15129], [26257], [15112], [15076], [20882], [20885],
     [26368], [26268], [32941], [17369], [26391], [26395], [26401], [26462], [26451], [144323],
     [15177], [26618]]⟩, ⟨194784, [[26501], [26706], [26757], [144493], [26766], [26655], [26900],
     [15261], [26946], [27043], [27114], [27304], [145059], [27355], [15384], [27425], [145575],
     [27476], [15438], [27506], [27551], [27578], [27579], [146061], [138507], [146170], [27726],
     [146620], [27839], [27853], [27751], [27926]]⟩, ⟨194816, [[27966], [28023], [27969], [28009],
     [28024], [28037], [146718], [27956], [28207], [28270], [15667], [28363], [28359], [147153],
     [28153], [28526], [147294], [147342], [28614], [28729], [28702], [28699], [15766], [28746],
     [28797], [28791], [28845], [132389], [28997], [148067], [29084], [148395]]⟩, ⟨194848, [[29224],
     [29237], [29264], [149000], [29312], [29333], [149301], [149524], [29562], [29579], [16044],
     [29605], [16056], [16056], [29767], [29788], [29809], [29829], [29898], [16155], [29988],
     [150582], [30014], [150674], [30064], [139679], [30224], [151457], [151480], [151620], [16380],
     [16392]]⟩, ⟨194880, [[30452], [151795], [151794], [151833], [151859], [30494], [30495],
     [30495], [30538], [16441], [30603], [16454], [16534], [152605], [30798], [30860], [30924],
     [16611], [153126], [31062], [153242], [153285], [31119], [31211], [16687], [31296], [31306],
     [31311], [153980], [154279], [154279], [31470]]⟩, ⟨194912, [[16898], [154539], [31686],
     [31689], [16935], [154752], [31954], [17056], [31976], [31971], [32000], [155526], [32099],
     [17153], [32199], [32258], [32325], [17204], [156200], [156231], [17241], [156377], [32634],
     [156478], [32661], [32762], [32773], [156890], [156963], [32864], [157096], [32880]]⟩, ⟨194944,
     [[144223], [17365], [32946], [33027], [17419], [33086], [23221], [157607], [157621], [144275],
     [144284], [33281], [33284], [36766], [17515], [33425], [33419], [33437], [21171], [33457],
     [33459], [33469], [33510], [158524], [33509], [33565], [33635], [33709], [33571], [33725],
     [33767], [33879]]⟩, ⟨194976, [[33619], [33738], [33740], [33756], [158774], [159083], [158933],
     [17707], [34033], [34035], [34070], [160714], [34148], [159532], [17757], [17761], [159665],
     [159954], [17771], [34384], [34396], [34407], [34409], [34473], [34440], [34574], [34530],
     [34681], [34600], [34667], [34694], [17879]]⟩, ⟨195008, [[34785], [34817], [17913], [34912],
     [34915], [161383], [35031], [35038], [17973], [35066], [13499], [161966], [162150], [18110],
     [18119], [35488], [35565], [35722], [35925], [162984], [36011], [36033], [36123], [36215],
     [163631], [133124], [36299], [36284], [36336], [133342], [36564], [36664]]⟩, ⟨195040,
     [[165330], [165357], [37012], [37105], [37137], [165678], [37147], [37432], [37591], [37592],
     [37500], [37881], [37909], [166906], [38283], [18837], [38327], [167287], [18918], [38595],
     [23986], [38691], [168261], [168474], [19054], [19062], [38880], [168970], [19122], [169110],
     [38923], [38923]]⟩, ⟨195072, [[38953], [169398], [39138], [19251], [39209], [39335], [39362],
     [39422], [19406], [170800], [39698], [40000], [40189], [19662], [19693], [40295], [172238],
     [19704], [172293], [172558], [172689], [40635], [19798], [40697], [40702], [40709], [40719],
     [40726], [40763], [173568]]⟩]

def blocks : List (Block (List Nat)) := blocksFirst ++ blocksSecond ++ blocksThird ++ blocksFourth

/-- What a character stands for in the name of a host, if it is allowed there. -/
def image? (c : Char) : Option (List Char) :=
  if c.toNat < 128 then some [c.toLower]
  else if isWithin excludedBoundaries c.toNat then none
  else if isWithin ignoredBoundaries c.toNat then some []
  else
    match Run.image? runs c, Block.entry? blocks c.toNat with
    | some image, _ => some [image]
    | none, some images => some (images.map Char.ofNat)
    | none, none => some [c]

def isPlain (c : Char) : Bool := image? c == some [c]

theorem image?_of_ascii (c : Char) (ascii : c.toNat < 128) : image? c = some [c.toLower] := by
  simp [image?, ascii]

end RemoteDom.Mapping
