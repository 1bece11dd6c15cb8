import Ucode.Grammar.Action

/-!
# The entries of the parse table

What an entry tells the parser to do. `StateRow.actions` refers to entries by number, from 1.
-/
namespace Ucode.Grammar

def entries0 : Array Entry := #[
  ⟨false, [.recover]⟩,
  ⟨true, [.shiftExtra]⟩,
  ⟨false, [.shift 309]⟩,
  ⟨true, [.shift 146]⟩,
  ⟨false, [.shift 322]⟩,
  ⟨false, [.shift 32]⟩,
  ⟨false, [.shift 1159]⟩,
  ⟨false, [.shift 1134]⟩,
  ⟨false, [.shift 1193]⟩,
  ⟨false, [.shift 1208]⟩,
  ⟨false, [.shift 1267]⟩,
  ⟨true, [.shift 335]⟩,
  ⟨false, [.shift 1147]⟩,
  ⟨true, [.shift 3]⟩,
  ⟨false, [.shift 1445]⟩,
  ⟨false, [.shift 1454]⟩,
  ⟨false, [.shift 1057]⟩,
  ⟨false, [.shift 1041]⟩,
  ⟨false, [.shift 812]⟩,
  ⟨true, [.shift 373]⟩,
  ⟨false, [.shift 676]⟩,
  ⟨true, [.shift 676]⟩,
  ⟨true, [.shift 679]⟩,
  ⟨false, [.shift 682]⟩,
  ⟨true, [.shift 32]⟩,
  ⟨true, [.shift 812]⟩,
  ⟨true, [.shift 725]⟩,
  ⟨true, [.shift 1291]⟩,
  ⟨true, [.shift 472]⟩,
  ⟨false, [.reduce 109 2 0, .shiftRepeat 309]⟩,
  ⟨false, [.reduce 109 2 0, .shiftRepeat 322]⟩,
  ⟨false, [.reduce 109 2 0, .shiftRepeat 2]⟩,
  ⟨false, [.reduce 109 2 0, .shiftRepeat 1159]⟩,
  ⟨false, [.reduce 109 2 0, .shiftRepeat 1134]⟩,
  ⟨false, [.reduce 109 2 0, .shiftRepeat 1193]⟩,
  ⟨false, [.reduce 109 2 0]⟩,
  ⟨false, [.reduce 109 2 0, .shiftRepeat 1208]⟩,
  ⟨false, [.reduce 109 2 0, .shiftRepeat 1267]⟩,
  ⟨true, [.reduce 109 2 0, .shiftRepeat 335]⟩,
  ⟨false, [.reduce 109 2 0, .shiftRepeat 1147]⟩,
  ⟨true, [.reduce 109 2 0, .shiftRepeat 3]⟩,
  ⟨false, [.reduce 109 2 0, .shiftRepeat 1445]⟩,
  ⟨false, [.reduce 109 2 0, .shiftRepeat 1454]⟩,
  ⟨false, [.reduce 109 2 0, .shiftRepeat 1057]⟩,
  ⟨false, [.reduce 109 2 0, .shiftRepeat 1041]⟩,
  ⟨false, [.reduce 109 2 0, .shiftRepeat 812]⟩,
  ⟨true, [.reduce 109 2 0, .shiftRepeat 373]⟩,
  ⟨false, [.reduce 109 2 0, .shiftRepeat 676]⟩,
  ⟨true, [.reduce 109 2 0, .shiftRepeat 676]⟩,
  ⟨true, [.reduce 109 2 0, .shiftRepeat 679]⟩,
  ⟨false, [.reduce 109 2 0, .shiftRepeat 682]⟩,
  ⟨true, [.reduce 109 2 0, .shiftRepeat 2]⟩,
  ⟨true, [.reduce 109 2 0, .shiftRepeat 812]⟩,
  ⟨true, [.reduce 109 2 0, .shiftRepeat 725]⟩,
  ⟨true, [.reduce 109 2 0, .shiftRepeat 1291]⟩,
  ⟨true, [.reduce 109 2 0, .shiftRepeat 472]⟩,
  ⟨false, [.shift 303]⟩,
  ⟨false, [.shift 316]⟩,
  ⟨false, [.shift 39]⟩,
  ⟨false, [.shift 1209]⟩,
  ⟨false, [.shift 1210]⟩,
  ⟨false, [.shift 1417]⟩,
  ⟨true, [.shift 628]⟩,
  ⟨false, [.shift 1187]⟩,
  ⟨true, [.shift 4]⟩,
  ⟨true, [.shift 221]⟩,
  ⟨false, [.shift 1479]⟩,
  ⟨false, [.shift 1480]⟩,
  ⟨false, [.shift 1058]⟩,
  ⟨false, [.shift 1038]⟩,
  ⟨true, [.shift 325]⟩,
  ⟨true, [.shift 39]⟩,
  ⟨true, [.shift 775]⟩,
  ⟨true, [.shift 490]⟩,
  ⟨false, [.shift 48]⟩,
  ⟨true, [.shift 262]⟩,
  ⟨true, [.shift 48]⟩,
  ⟨false, [.shift 101]⟩,
  ⟨true, [.shift 777]⟩,
  ⟨true, [.shift 101]⟩,
  ⟨false, [.shift 81]⟩,
  ⟨true, [.shift 804]⟩,
  ⟨true, [.shift 81]⟩,
  ⟨false, [.shift 91]⟩,
  ⟨true, [.shift 941]⟩,
  ⟨true, [.shift 91]⟩,
  ⟨false, [.shift 111]⟩,
  ⟨true, [.shift 969]⟩,
  ⟨true, [.shift 111]⟩,
  ⟨true, [.shift 210]⟩,
  ⟨false, [.shift 121]⟩,
  ⟨true, [.shift 897]⟩,
  ⟨true, [.shift 121]⟩,
  ⟨true, [.shift 294]⟩,
  ⟨false, [.shift 2]⟩,
  ⟨false, [.shift 139]⟩,
  ⟨false, [.shift 1198]⟩,
  ⟨false, [.shift 443]⟩,
  ⟨true, [.shift 2]⟩,
  ⟨false, [.shift 150]⟩,
  ⟨false, [.shift 527]⟩,
  ⟨false, [.reduce 109 2 0, .shiftRepeat 316]⟩,
  ⟨false, [.reduce 109 2 0, .shiftRepeat 14]⟩,
  ⟨false, [.reduce 109 2 0, .shiftRepeat 1209]⟩,
  ⟨false, [.reduce 109 2 0, .shiftRepeat 1210]⟩,
  ⟨false, [.reduce 109 2 0, .shiftRepeat 1417]⟩,
  ⟨false, [.reduce 109 2 0, .shiftRepeat 1187]⟩,
  ⟨true, [.reduce 109 2 0, .shiftRepeat 4]⟩,
  ⟨true, [.reduce 109 2 0]⟩,
  ⟨false, [.reduce 109 2 0, .shiftRepeat 1479]⟩,
  ⟨false, [.reduce 109 2 0, .shiftRepeat 1480]⟩,
  ⟨false, [.reduce 109 2 0, .shiftRepeat 1058]⟩,
  ⟨false, [.reduce 109 2 0, .shiftRepeat 1038]⟩,
  ⟨true, [.reduce 109 2 0, .shiftRepeat 14]⟩,
  ⟨true, [.reduce 109 2 0, .shiftRepeat 490]⟩,
  ⟨false, [.shift 18]⟩,
  ⟨true, [.reduce 134 2 0]⟩,
  ⟨false, [.reduce 134 2 0]⟩,
  ⟨true, [.shift 18]⟩,
  ⟨false, [.reduce 178 4 124]⟩,
  ⟨false, [.shift 19]⟩,
  ⟨true, [.reduce 133 3 43]⟩,
  ⟨false, [.reduce 133 3 43]⟩,
  ⟨true, [.shift 19]⟩,
  ⟨false, [.shift 14]⟩,
  ⟨true, [.reduce 134 3 128]⟩,
  ⟨false, [.reduce 134 3 128]⟩,
  ⟨true, [.shift 14]⟩]

def entries1 : Array Entry := #[
  ⟨true, [.reduce 133 4 130]⟩,
  ⟨false, [.reduce 133 4 130]⟩,
  ⟨true, [.shift 546]⟩,
  ⟨false, [.shift 388]⟩,
  ⟨true, [.shift 224]⟩,
  ⟨false, [.shift 31]⟩,
  ⟨true, [.shift 225]⟩,
  ⟨true, [.shift 31]⟩,
  ⟨true, [.shift 455]⟩,
  ⟨false, [.shift 33]⟩,
  ⟨true, [.shift 426]⟩,
  ⟨true, [.shift 33]⟩,
  ⟨false, [.shift 34]⟩,
  ⟨true, [.shift 400]⟩,
  ⟨true, [.shift 34]⟩,
  ⟨true, [.shift 960]⟩,
  ⟨false, [.shift 36]⟩,
  ⟨true, [.shift 961]⟩,
  ⟨true, [.shift 36]⟩,
  ⟨false, [.shift 397]⟩,
  ⟨false, [.shift 398]⟩,
  ⟨true, [.shift 223]⟩,
  ⟨true, [.reduce 105 1 0]⟩,
  ⟨false, [.shift 37]⟩,
  ⟨true, [.shift 37]⟩,
  ⟨true, [.shift 408]⟩,
  ⟨true, [.shift 414]⟩,
  ⟨false, [.shift 41]⟩,
  ⟨true, [.shift 415]⟩,
  ⟨true, [.shift 41]⟩,
  ⟨true, [.shift 963]⟩,
  ⟨true, [.reduce 175 2 0]⟩,
  ⟨false, [.reduce 175 2 0, .shiftRepeat 309]⟩,
  ⟨false, [.reduce 175 2 0, .shiftRepeat 322]⟩,
  ⟨false, [.reduce 175 2 0, .shiftRepeat 37]⟩,
  ⟨false, [.reduce 175 2 0, .shiftRepeat 1159]⟩,
  ⟨false, [.reduce 175 2 0, .shiftRepeat 1134]⟩,
  ⟨false, [.reduce 175 2 0, .shiftRepeat 1193]⟩,
  ⟨false, [.reduce 175 2 0, .shiftRepeat 1208]⟩,
  ⟨false, [.reduce 175 2 0, .shiftRepeat 1267]⟩,
  ⟨true, [.reduce 175 2 0, .shiftRepeat 335]⟩,
  ⟨false, [.reduce 175 2 0, .shiftRepeat 1147]⟩,
  ⟨true, [.reduce 175 2 0, .shiftRepeat 3]⟩,
  ⟨false, [.reduce 175 2 0, .shiftRepeat 1445]⟩,
  ⟨false, [.reduce 175 2 0, .shiftRepeat 1454]⟩,
  ⟨false, [.reduce 175 2 0, .shiftRepeat 1057]⟩,
  ⟨false, [.reduce 175 2 0, .shiftRepeat 1041]⟩,
  ⟨false, [.reduce 175 2 0, .shiftRepeat 812]⟩,
  ⟨true, [.reduce 175 2 0, .shiftRepeat 373]⟩,
  ⟨false, [.reduce 175 2 0, .shiftRepeat 676]⟩,
  ⟨true, [.reduce 175 2 0, .shiftRepeat 676]⟩,
  ⟨true, [.reduce 175 2 0, .shiftRepeat 679]⟩,
  ⟨false, [.reduce 175 2 0, .shiftRepeat 682]⟩,
  ⟨true, [.reduce 175 2 0, .shiftRepeat 37]⟩,
  ⟨true, [.reduce 175 2 0, .shiftRepeat 812]⟩,
  ⟨true, [.reduce 175 2 0, .shiftRepeat 725]⟩,
  ⟨true, [.reduce 175 2 0, .shiftRepeat 1291]⟩,
  ⟨true, [.reduce 175 2 0, .shiftRepeat 472]⟩,
  ⟨true, [.reduce 105 2 0]⟩,
  ⟨true, [.shift 211]⟩,
  ⟨false, [.shift 43]⟩,
  ⟨true, [.shift 420]⟩,
  ⟨true, [.shift 43]⟩,
  ⟨true, [.shift 441]⟩,
  ⟨true, [.shift 1389]⟩,
  ⟨true, [.shift 442]⟩,
  ⟨false, [.shift 45]⟩,
  ⟨true, [.shift 444]⟩,
  ⟨true, [.shift 45]⟩,
  ⟨true, [.shift 450]⟩,
  ⟨false, [.shift 42]⟩,
  ⟨true, [.shift 1333]⟩,
  ⟨true, [.shift 42]⟩,
  ⟨false, [.shift 452]⟩,
  ⟨true, [.shift 296]⟩,
  ⟨false, [.shift 133]⟩,
  ⟨true, [.shift 813]⟩,
  ⟨true, [.shift 133]⟩,
  ⟨false, [.shift 529]⟩,
  ⟨false, [.shift 52]⟩,
  ⟨true, [.shift 923]⟩,
  ⟨true, [.shift 52]⟩,
  ⟨true, [.shift 967]⟩,
  ⟨false, [.shift 59]⟩,
  ⟨true, [.shift 970]⟩,
  ⟨true, [.shift 59]⟩,
  ⟨false, [.shift 61]⟩,
  ⟨true, [.shift 261]⟩,
  ⟨true, [.shift 61]⟩,
  ⟨false, [.shift 63]⟩,
  ⟨true, [.shift 534]⟩,
  ⟨true, [.shift 63]⟩,
  ⟨false, [.shift 66]⟩,
  ⟨true, [.shift 824]⟩,
  ⟨true, [.shift 66]⟩,
  ⟨false, [.shift 537]⟩,
  ⟨false, [.shift 538]⟩,
  ⟨true, [.shift 902]⟩,
  ⟨false, [.shift 539]⟩,
  ⟨true, [.shift 265]⟩,
  ⟨false, [.shift 70]⟩,
  ⟨true, [.shift 269]⟩,
  ⟨true, [.shift 70]⟩,
  ⟨true, [.shift 541]⟩,
  ⟨false, [.shift 20]⟩,
  ⟨true, [.shift 542]⟩,
  ⟨true, [.shift 20]⟩,
  ⟨false, [.shift 72]⟩,
  ⟨true, [.shift 543]⟩,
  ⟨true, [.shift 72]⟩,
  ⟨true, [.shift 818]⟩,
  ⟨false, [.shift 74]⟩,
  ⟨true, [.shift 826]⟩,
  ⟨true, [.shift 74]⟩,
  ⟨false, [.shift 544]⟩,
  ⟨false, [.shift 545]⟩,
  ⟨true, [.shift 271]⟩,
  ⟨true, [.shift 1428]⟩,
  ⟨true, [.shift 547]⟩,
  ⟨false, [.shift 76]⟩,
  ⟨true, [.shift 548]⟩,
  ⟨true, [.shift 76]⟩,
  ⟨true, [.shift 819]⟩,
  ⟨false, [.shift 77]⟩,
  ⟨true, [.shift 549]⟩,
  ⟨true, [.shift 77]⟩,
  ⟨true, [.shift 550]⟩,
  ⟨true, [.shift 551]⟩]

def entries2 : Array Entry := #[
  ⟨false, [.shift 79]⟩,
  ⟨true, [.shift 552]⟩,
  ⟨true, [.shift 79]⟩,
  ⟨true, [.shift 553]⟩,
  ⟨true, [.shift 810]⟩,
  ⟨true, [.shift 797]⟩,
  ⟨false, [.shift 83]⟩,
  ⟨true, [.shift 752]⟩,
  ⟨true, [.shift 83]⟩,
  ⟨true, [.shift 757]⟩,
  ⟨false, [.shift 86]⟩,
  ⟨true, [.shift 759]⟩,
  ⟨true, [.shift 86]⟩,
  ⟨false, [.shift 87]⟩,
  ⟨true, [.shift 760]⟩,
  ⟨true, [.shift 87]⟩,
  ⟨true, [.shift 761]⟩,
  ⟨true, [.shift 762]⟩,
  ⟨false, [.shift 89]⟩,
  ⟨true, [.shift 763]⟩,
  ⟨true, [.shift 89]⟩,
  ⟨true, [.shift 764]⟩,
  ⟨false, [.shift 80]⟩,
  ⟨true, [.shift 795]⟩,
  ⟨true, [.shift 80]⟩,
  ⟨true, [.shift 906]⟩,
  ⟨false, [.shift 93]⟩,
  ⟨true, [.shift 971]⟩,
  ⟨true, [.shift 93]⟩,
  ⟨true, [.shift 977]⟩,
  ⟨false, [.shift 96]⟩,
  ⟨true, [.shift 978]⟩,
  ⟨true, [.shift 96]⟩,
  ⟨false, [.shift 97]⟩,
  ⟨true, [.shift 980]⟩,
  ⟨true, [.shift 97]⟩,
  ⟨true, [.shift 981]⟩,
  ⟨true, [.shift 982]⟩,
  ⟨false, [.shift 99]⟩,
  ⟨true, [.shift 983]⟩,
  ⟨true, [.shift 99]⟩,
  ⟨true, [.shift 984]⟩,
  ⟨false, [.shift 22]⟩,
  ⟨true, [.shift 219]⟩,
  ⟨true, [.shift 22]⟩,
  ⟨true, [.shift 739]⟩,
  ⟨false, [.shift 103]⟩,
  ⟨true, [.shift 942]⟩,
  ⟨true, [.shift 103]⟩,
  ⟨true, [.shift 950]⟩,
  ⟨false, [.shift 106]⟩,
  ⟨true, [.shift 951]⟩,
  ⟨true, [.shift 106]⟩,
  ⟨false, [.shift 107]⟩,
  ⟨true, [.shift 952]⟩,
  ⟨true, [.shift 107]⟩,
  ⟨true, [.shift 953]⟩,
  ⟨true, [.shift 954]⟩,
  ⟨false, [.shift 109]⟩,
  ⟨true, [.shift 957]⟩,
  ⟨true, [.shift 109]⟩,
  ⟨true, [.shift 958]⟩,
  ⟨false, [.shift 24]⟩,
  ⟨true, [.shift 421]⟩,
  ⟨true, [.shift 24]⟩,
  ⟨true, [.shift 986]⟩,
  ⟨false, [.shift 113]⟩,
  ⟨true, [.shift 222]⟩,
  ⟨true, [.shift 113]⟩,
  ⟨true, [.shift 230]⟩,
  ⟨false, [.shift 116]⟩,
  ⟨true, [.shift 231]⟩,
  ⟨true, [.shift 116]⟩,
  ⟨false, [.shift 117]⟩,
  ⟨true, [.shift 213]⟩,
  ⟨true, [.shift 117]⟩,
  ⟨true, [.shift 199]⟩,
  ⟨true, [.shift 200]⟩,
  ⟨false, [.shift 119]⟩,
  ⟨true, [.shift 201]⟩,
  ⟨true, [.shift 119]⟩,
  ⟨true, [.shift 202]⟩,
  ⟨false, [.shift 27]⟩,
  ⟨true, [.shift 948]⟩,
  ⟨true, [.shift 27]⟩,
  ⟨true, [.shift 910]⟩,
  ⟨false, [.shift 123]⟩,
  ⟨true, [.shift 282]⟩,
  ⟨true, [.shift 123]⟩,
  ⟨true, [.shift 287]⟩,
  ⟨false, [.shift 126]⟩,
  ⟨true, [.shift 288]⟩,
  ⟨true, [.shift 126]⟩,
  ⟨false, [.shift 127]⟩,
  ⟨true, [.shift 289]⟩,
  ⟨true, [.shift 127]⟩,
  ⟨true, [.shift 290]⟩,
  ⟨true, [.shift 291]⟩,
  ⟨false, [.shift 129]⟩,
  ⟨true, [.shift 292]⟩,
  ⟨true, [.shift 129]⟩,
  ⟨true, [.shift 293]⟩,
  ⟨false, [.shift 427]⟩,
  ⟨false, [.shift 431]⟩,
  ⟨false, [.shift 71]⟩,
  ⟨true, [.shift 1424]⟩,
  ⟨true, [.shift 71]⟩,
  ⟨true, [.shift 794]⟩,
  ⟨false, [.shift 12]⟩,
  ⟨true, [.shift 12]⟩,
  ⟨false, [.shift 519]⟩,
  ⟨true, [.shift 149]⟩,
  ⟨true, [.shift 519]⟩,
  ⟨false, [.shift 530]⟩,
  ⟨true, [.shift 151]⟩,
  ⟨true, [.shift 530]⟩,
  ⟨false, [.shift 47]⟩,
  ⟨true, [.shift 47]⟩,
  ⟨false, [.shift 393]⟩,
  ⟨true, [.shift 140]⟩,
  ⟨true, [.shift 393]⟩,
  ⟨false, [.shift 130]⟩,
  ⟨true, [.shift 130]⟩,
  ⟨false, [.shift 131]⟩,
  ⟨true, [.shift 131]⟩,
  ⟨false, [.shift 21]⟩,
  ⟨true, [.shift 21]⟩,
  ⟨false, [.shift 29]⟩]

def entries3 : Array Entry := #[
  ⟨true, [.shift 29]⟩,
  ⟨false, [.shift 406]⟩,
  ⟨true, [.shift 134]⟩,
  ⟨true, [.shift 406]⟩,
  ⟨false, [.shift 412]⟩,
  ⟨true, [.shift 137]⟩,
  ⟨true, [.shift 412]⟩,
  ⟨false, [.shift 30]⟩,
  ⟨true, [.shift 30]⟩,
  ⟨false, [.shift 38]⟩,
  ⟨true, [.shift 38]⟩,
  ⟨false, [.shift 16]⟩,
  ⟨true, [.shift 16]⟩,
  ⟨false, [.shift 13]⟩,
  ⟨true, [.shift 13]⟩,
  ⟨false, [.shift 50]⟩,
  ⟨true, [.shift 50]⟩,
  ⟨false, [.shift 57]⟩,
  ⟨true, [.shift 57]⟩,
  ⟨false, [.shift 58]⟩,
  ⟨true, [.shift 58]⟩,
  ⟨false, [.shift 60]⟩,
  ⟨true, [.shift 60]⟩,
  ⟨false, [.shift 68]⟩,
  ⟨true, [.shift 68]⟩,
  ⟨false, [.shift 69]⟩,
  ⟨true, [.shift 69]⟩,
  ⟨false, [.shift 518]⟩,
  ⟨true, [.shift 148]⟩,
  ⟨true, [.shift 518]⟩,
  ⟨false, [.shift 446]⟩,
  ⟨true, [.shift 446]⟩,
  ⟨false, [.shift 528]⟩,
  ⟨true, [.shift 528]⟩,
  ⟨true, [.reduce 174 1 0]⟩,
  ⟨false, [.reduce 174 1 0]⟩,
  ⟨true, [.reduce 148 1 7]⟩,
  ⟨false, [.reduce 148 1 7]⟩,
  ⟨false, [.reduce 154 1 7]⟩,
  ⟨true, [.reduce 154 1 7]⟩,
  ⟨true, [.reduce 167 1 8]⟩,
  ⟨true, [.reduce 153 3 48]⟩,
  ⟨false, [.reduce 153 3 48]⟩,
  ⟨true, [.reduce 173 1 0]⟩,
  ⟨false, [.reduce 173 1 0]⟩,
  ⟨true, [.reduce 153 3 47]⟩,
  ⟨false, [.reduce 153 3 47]⟩,
  ⟨true, [.reduce 152 5 94]⟩,
  ⟨false, [.reduce 152 5 94]⟩,
  ⟨true, [.reduce 152 4 71]⟩,
  ⟨false, [.reduce 152 4 71]⟩,
  ⟨true, [.reduce 148 1 0]⟩,
  ⟨false, [.reduce 148 1 0]⟩,
  ⟨false, [.reduce 154 1 0]⟩,
  ⟨true, [.reduce 154 1 0]⟩,
  ⟨true, [.reduce 183 2 25]⟩,
  ⟨false, [.reduce 183 2 25]⟩,
  ⟨true, [.reduce 183 2 25, .shiftRepeat 486]⟩,
  ⟨true, [.reduce 149 1 1]⟩,
  ⟨false, [.reduce 149 1 1]⟩,
  ⟨true, [.shift 486]⟩,
  ⟨true, [.reduce 149 2 9]⟩,
  ⟨false, [.reduce 149 2 9]⟩,
  ⟨true, [.reduce 156 3 44]⟩,
  ⟨false, [.reduce 156 3 44]⟩,
  ⟨true, [.shift 357]⟩,
  ⟨false, [.shift 617]⟩,
  ⟨true, [.shift 620]⟩,
  ⟨false, [.shift 624]⟩,
  ⟨true, [.shift 617]⟩,
  ⟨true, [.shift 625]⟩,
  ⟨true, [.shift 220]⟩,
  ⟨false, [.shift 616]⟩,
  ⟨true, [.shift 618]⟩,
  ⟨true, [.shift 619]⟩,
  ⟨false, [.shift 621]⟩,
  ⟨true, [.shift 622]⟩,
  ⟨false, [.shift 623]⟩,
  ⟨true, [.shift 616]⟩,
  ⟨false, [.shift 626]⟩,
  ⟨true, [.shift 626]⟩,
  ⟨true, [.reduce 150 3 49]⟩,
  ⟨false, [.reduce 150 3 49]⟩,
  ⟨false, [.shift 699]⟩,
  ⟨true, [.shift 627]⟩,
  ⟨true, [.reduce 172 3 0]⟩,
  ⟨false, [.reduce 172 3 0]⟩,
  ⟨true, [.reduce 151 3 50]⟩,
  ⟨false, [.reduce 151 3 50]⟩,
  ⟨true, [.reduce 168 3 52]⟩,
  ⟨false, [.reduce 168 3 52]⟩,
  ⟨true, [.reduce 183 4 72]⟩,
  ⟨false, [.reduce 183 4 72]⟩,
  ⟨true, [.reduce 155 5 93]⟩,
  ⟨false, [.reduce 155 5 93]⟩,
  ⟨true, [.reduce 157 2 19]⟩,
  ⟨false, [.reduce 157 2 19]⟩,
  ⟨true, [.reduce 158 2 19]⟩,
  ⟨false, [.reduce 158 2 19]⟩,
  ⟨true, [.reduce 159 2 20]⟩,
  ⟨false, [.reduce 159 2 20]⟩,
  ⟨true, [.reduce 165 5 85]⟩,
  ⟨false, [.reduce 165 5 85]⟩,
  ⟨true, [.reduce 169 7 117]⟩,
  ⟨false, [.reduce 169 7 117]⟩,
  ⟨true, [.reduce 169 7 118]⟩,
  ⟨false, [.reduce 169 7 118]⟩,
  ⟨true, [.reduce 169 7 119]⟩,
  ⟨false, [.reduce 169 7 119]⟩,
  ⟨true, [.reduce 169 8 127]⟩,
  ⟨false, [.reduce 169 8 127]⟩,
  ⟨true, [.reduce 165 2 0]⟩,
  ⟨false, [.reduce 165 2 0]⟩,
  ⟨true, [.reduce 165 3 38]⟩,
  ⟨false, [.reduce 165 3 38]⟩,
  ⟨true, [.reduce 162 3 42]⟩,
  ⟨false, [.reduce 162 3 42]⟩,
  ⟨true, [.reduce 161 3 46]⟩,
  ⟨false, [.reduce 161 3 46]⟩,
  ⟨true, [.reduce 160 2 0]⟩,
  ⟨false, [.reduce 160 2 0]⟩,
  ⟨true, [.reduce 147 2 10]⟩,
  ⟨false, [.reduce 147 2 10]⟩,
  ⟨true, [.reduce 162 2 0]⟩,
  ⟨false, [.reduce 162 2 0]⟩,
  ⟨true, [.reduce 145 2 0]⟩,
  ⟨false, [.reduce 145 2 0]⟩,
  ⟨true, [.reduce 145 3 37]⟩]

def entries4 : Array Entry := #[
  ⟨false, [.reduce 145 3 37]⟩,
  ⟨true, [.reduce 168 3 51]⟩,
  ⟨false, [.reduce 168 3 51]⟩,
  ⟨true, [.reduce 169 6 105]⟩,
  ⟨false, [.reduce 169 6 105]⟩,
  ⟨true, [.reduce 165 4 59]⟩,
  ⟨false, [.reduce 165 4 59]⟩,
  ⟨true, [.reduce 162 4 67]⟩,
  ⟨false, [.reduce 162 4 67]⟩,
  ⟨true, [.reduce 162 4 69]⟩,
  ⟨false, [.reduce 162 4 69]⟩,
  ⟨true, [.reduce 160 3 0]⟩,
  ⟨false, [.reduce 160 3 0]⟩,
  ⟨true, [.reduce 160 3 68]⟩,
  ⟨false, [.reduce 160 3 68]⟩,
  ⟨true, [.reduce 131 6 105]⟩,
  ⟨false, [.reduce 131 6 105]⟩,
  ⟨true, [.reduce 131 6 105, .reduce 169 6 105]⟩,
  ⟨false, [.reduce 131 6 105, .reduce 169 6 105]⟩,
  ⟨true, [.reduce 158 2 22]⟩,
  ⟨false, [.reduce 158 2 22]⟩,
  ⟨true, [.reduce 169 5 0]⟩,
  ⟨false, [.reduce 169 5 0]⟩,
  ⟨true, [.reduce 131 8 127]⟩,
  ⟨false, [.reduce 131 8 127]⟩,
  ⟨true, [.reduce 131 8 127, .reduce 169 8 127]⟩,
  ⟨false, [.reduce 131 8 127, .reduce 169 8 127]⟩,
  ⟨true, [.reduce 131 7 118]⟩,
  ⟨false, [.reduce 131 7 118]⟩,
  ⟨true, [.reduce 131 7 118, .reduce 169 7 118]⟩,
  ⟨false, [.reduce 131 7 118, .reduce 169 7 118]⟩,
  ⟨true, [.reduce 131 7 119]⟩,
  ⟨false, [.reduce 131 7 119]⟩,
  ⟨true, [.reduce 131 7 119, .reduce 169 7 119]⟩,
  ⟨false, [.reduce 131 7 119, .reduce 169 7 119]⟩,
  ⟨true, [.reduce 162 5 91]⟩,
  ⟨false, [.reduce 162 5 91]⟩,
  ⟨true, [.reduce 160 4 68]⟩,
  ⟨false, [.reduce 160 4 68]⟩,
  ⟨true, [.reduce 160 4 92]⟩,
  ⟨false, [.reduce 160 4 92]⟩,
  ⟨true, [.reduce 161 2 23]⟩,
  ⟨false, [.reduce 161 2 23]⟩,
  ⟨true, [.reduce 169 6 103]⟩,
  ⟨false, [.reduce 169 6 103]⟩,
  ⟨true, [.reduce 169 6 104]⟩,
  ⟨false, [.reduce 169 6 104]⟩,
  ⟨true, [.reduce 146 1 0]⟩,
  ⟨false, [.reduce 146 1 0]⟩,
  ⟨true, [.shift 1097]⟩,
  ⟨true, [.shift 475]⟩,
  ⟨true, [.shift 1261]⟩,
  ⟨true, [.reduce 114 5 74]⟩,
  ⟨false, [.reduce 114 5 74]⟩,
  ⟨true, [.shift 1275]⟩,
  ⟨true, [.shift 487]⟩,
  ⟨true, [.reduce 183 2 25, .shiftRepeat 487]⟩,
  ⟨true, [.reduce 115 4 53]⟩,
  ⟨false, [.reduce 115 4 53]⟩,
  ⟨true, [.shift 1289]⟩,
  ⟨true, [.reduce 114 4 53]⟩,
  ⟨false, [.reduce 114 4 53]⟩,
  ⟨true, [.reduce 115 5 74]⟩,
  ⟨false, [.reduce 115 5 74]⟩,
  ⟨true, [.shift 366]⟩,
  ⟨false, [.shift 636]⟩,
  ⟨true, [.shift 639]⟩,
  ⟨false, [.shift 643]⟩,
  ⟨true, [.shift 636]⟩,
  ⟨true, [.shift 644]⟩,
  ⟨true, [.shift 263]⟩,
  ⟨true, [.reduce 144 3 41]⟩,
  ⟨false, [.reduce 144 3 41]⟩,
  ⟨false, [.shift 635]⟩,
  ⟨false, [.shift 640]⟩,
  ⟨true, [.shift 641]⟩,
  ⟨false, [.shift 642]⟩,
  ⟨true, [.shift 635]⟩,
  ⟨false, [.shift 645]⟩,
  ⟨true, [.shift 645]⟩,
  ⟨true, [.shift 637]⟩,
  ⟨true, [.shift 638]⟩,
  ⟨false, [.shift 701]⟩,
  ⟨true, [.shift 646]⟩,
  ⟨true, [.shift 1090]⟩,
  ⟨true, [.shift 479]⟩,
  ⟨true, [.shift 1204]⟩,
  ⟨true, [.reduce 148 1 7, .reduce 166 1 13]⟩,
  ⟨true, [.reduce 166 1 13]⟩,
  ⟨false, [.shift 302]⟩,
  ⟨false, [.shift 1162]⟩,
  ⟨true, [.shift 413]⟩,
  ⟨true, [.shift 339]⟩,
  ⟨false, [.shift 1182]⟩,
  ⟨true, [.shift 1051]⟩,
  ⟨false, [.shift 771]⟩,
  ⟨true, [.shift 346]⟩,
  ⟨false, [.shift 554]⟩,
  ⟨true, [.shift 554]⟩,
  ⟨true, [.shift 555]⟩,
  ⟨false, [.shift 556]⟩,
  ⟨true, [.shift 771]⟩,
  ⟨true, [.shift 711]⟩,
  ⟨true, [.shift 1290]⟩,
  ⟨false, [.shift 1181]⟩,
  ⟨true, [.shift 1046]⟩,
  ⟨true, [.shift 698]⟩,
  ⟨true, [.shift 409]⟩,
  ⟨true, [.shift 655]⟩,
  ⟨true, [.shift 817]⟩,
  ⟨true, [.shift 1203]⟩,
  ⟨true, [.shift 478]⟩,
  ⟨true, [.reduce 115 2 11]⟩,
  ⟨false, [.reduce 115 2 11]⟩,
  ⟨true, [.shift 517]⟩,
  ⟨true, [.shift 1268]⟩,
  ⟨true, [.reduce 115 3 29]⟩,
  ⟨false, [.reduce 115 3 29]⟩,
  ⟨true, [.shift 521]⟩,
  ⟨true, [.shift 1317]⟩,
  ⟨true, [.shift 1253]⟩,
  ⟨true, [.reduce 148 1 7, .shift 1213]⟩,
  ⟨true, [.reduce 148 1 7, .shift 1322]⟩,
  ⟨true, [.shift 807]⟩,
  ⟨true, [.shift 823]⟩,
  ⟨true, [.shift 805]⟩,
  ⟨true, [.shift 774]⟩,
  ⟨true, [.shift 896]⟩]

def entries5 : Array Entry := #[
  ⟨true, [.shift 920]⟩,
  ⟨true, [.shift 935]⟩,
  ⟨true, [.shift 944]⟩,
  ⟨true, [.shift 776]⟩,
  ⟨true, [.shift 209]⟩,
  ⟨true, [.shift 207]⟩,
  ⟨true, [.shift 215]⟩,
  ⟨true, [.shift 226]⟩,
  ⟨true, [.shift 747]⟩,
  ⟨true, [.shift 281]⟩,
  ⟨true, [.shift 273]⟩,
  ⟨true, [.shift 277]⟩,
  ⟨true, [.shift 284]⟩,
  ⟨true, [.shift 940]⟩,
  ⟨true, [.shift 926]⟩,
  ⟨true, [.shift 891]⟩,
  ⟨true, [.shift 946]⟩,
  ⟨true, [.shift 895]⟩,
  ⟨true, [.shift 916]⟩,
  ⟨true, [.shift 949]⟩,
  ⟨true, [.shift 973]⟩,
  ⟨true, [.shift 754]⟩,
  ⟨true, [.reduce 130 7 118]⟩,
  ⟨false, [.reduce 130 7 118]⟩,
  ⟨true, [.reduce 144 2 18]⟩,
  ⟨false, [.reduce 144 2 18]⟩,
  ⟨true, [.reduce 124 3 78]⟩,
  ⟨true, [.reduce 124 3 79]⟩,
  ⟨true, [.reduce 116 2 21]⟩,
  ⟨false, [.reduce 116 2 21]⟩,
  ⟨true, [.reduce 127 5 80]⟩,
  ⟨false, [.reduce 127 5 80]⟩,
  ⟨true, [.reduce 124 3 81]⟩,
  ⟨true, [.reduce 132 1 6]⟩,
  ⟨false, [.reduce 132 1 6]⟩,
  ⟨true, [.reduce 118 8 125]⟩,
  ⟨false, [.reduce 118 8 125]⟩,
  ⟨true, [.reduce 130 8 127]⟩,
  ⟨false, [.reduce 130 8 127]⟩,
  ⟨true, [.reduce 144 2 16]⟩,
  ⟨false, [.reduce 144 2 16]⟩,
  ⟨true, [.reduce 143 4 88]⟩,
  ⟨false, [.reduce 143 4 88]⟩,
  ⟨true, [.reduce 144 2 17]⟩,
  ⟨false, [.reduce 144 2 17]⟩,
  ⟨true, [.reduce 119 1 3]⟩,
  ⟨false, [.reduce 119 1 3]⟩,
  ⟨true, [.reduce 118 6 95]⟩,
  ⟨false, [.reduce 118 6 95]⟩,
  ⟨true, [.reduce 117 3 30]⟩,
  ⟨false, [.reduce 117 3 30]⟩,
  ⟨false, [.shift 156]⟩,
  ⟨true, [.reduce 124 4 100]⟩,
  ⟨true, [.reduce 136 8 129]⟩,
  ⟨false, [.reduce 136 8 129]⟩,
  ⟨true, [.reduce 113 2 0]⟩,
  ⟨false, [.reduce 113 2 0]⟩,
  ⟨true, [.reduce 113 3 26]⟩,
  ⟨false, [.reduce 113 3 26]⟩,
  ⟨true, [.reduce 124 4 102]⟩,
  ⟨true, [.reduce 121 3 30]⟩,
  ⟨false, [.reduce 121 3 30]⟩,
  ⟨true, [.shift 429]⟩,
  ⟨true, [.reduce 122 1 4]⟩,
  ⟨false, [.reduce 122 1 4]⟩,
  ⟨true, [.reduce 135 6 107]⟩,
  ⟨false, [.reduce 135 6 107]⟩,
  ⟨true, [.reduce 111 2 0]⟩,
  ⟨false, [.reduce 111 2 0]⟩,
  ⟨true, [.reduce 136 9 131]⟩,
  ⟨false, [.reduce 136 9 131]⟩,
  ⟨true, [.reduce 136 6 0]⟩,
  ⟨false, [.reduce 136 6 0]⟩,
  ⟨true, [.reduce 141 6 110]⟩,
  ⟨false, [.reduce 141 6 110]⟩,
  ⟨true, [.reduce 141 6 111]⟩,
  ⟨false, [.reduce 141 6 111]⟩,
  ⟨true, [.reduce 119 1 2]⟩,
  ⟨false, [.reduce 119 1 2]⟩,
  ⟨true, [.reduce 136 7 123]⟩,
  ⟨false, [.reduce 136 7 123]⟩,
  ⟨true, [.reduce 118 7 112]⟩,
  ⟨false, [.reduce 118 7 112]⟩,
  ⟨true, [.reduce 128 1 5]⟩,
  ⟨false, [.reduce 128 1 5]⟩,
  ⟨true, [.reduce 124 2 0]⟩,
  ⟨true, [.shift 391]⟩,
  ⟨true, [.reduce 126 7 114]⟩,
  ⟨false, [.reduce 126 7 114]⟩,
  ⟨true, [.shift 394]⟩,
  ⟨true, [.reduce 144 2 15]⟩,
  ⟨false, [.reduce 144 2 15]⟩,
  ⟨true, [.reduce 141 4 64]⟩,
  ⟨false, [.reduce 141 4 64]⟩,
  ⟨true, [.reduce 141 4 65]⟩,
  ⟨false, [.reduce 141 4 65]⟩,
  ⟨true, [.reduce 141 4 66]⟩,
  ⟨false, [.reduce 141 4 66]⟩,
  ⟨true, [.reduce 143 3 61]⟩,
  ⟨false, [.reduce 143 3 61]⟩,
  ⟨false, [.reduce 184 2 70, .shiftRepeat 302]⟩,
  ⟨true, [.reduce 184 2 70, .shiftRepeat 339]⟩,
  ⟨true, [.reduce 184 2 70, .shiftRepeat 655]⟩,
  ⟨false, [.reduce 184 2 70, .shiftRepeat 1182]⟩,
  ⟨true, [.reduce 184 2 70, .shiftRepeat 1051]⟩,
  ⟨false, [.reduce 184 2 70, .shiftRepeat 771]⟩,
  ⟨true, [.reduce 184 2 70, .shiftRepeat 346]⟩,
  ⟨false, [.reduce 184 2 70, .shiftRepeat 554]⟩,
  ⟨true, [.reduce 184 2 70, .shiftRepeat 554]⟩,
  ⟨true, [.reduce 184 2 70, .shiftRepeat 555]⟩,
  ⟨false, [.reduce 184 2 70, .shiftRepeat 556]⟩,
  ⟨true, [.reduce 184 2 70, .shiftRepeat 771]⟩,
  ⟨true, [.reduce 184 2 70, .shiftRepeat 711]⟩,
  ⟨true, [.reduce 184 2 70, .shiftRepeat 1290]⟩,
  ⟨true, [.reduce 136 10 132]⟩,
  ⟨false, [.reduce 136 10 132]⟩,
  ⟨true, [.reduce 118 5 75]⟩,
  ⟨false, [.reduce 118 5 75]⟩,
  ⟨true, [.reduce 136 10 133]⟩,
  ⟨false, [.reduce 136 10 133]⟩,
  ⟨true, [.reduce 117 5 76]⟩,
  ⟨false, [.reduce 117 5 76]⟩,
  ⟨true, [.reduce 110 3 0]⟩,
  ⟨false, [.reduce 110 3 0]⟩,
  ⟨true, [.reduce 136 11 134]⟩,
  ⟨false, [.reduce 136 11 134]⟩,
  ⟨true, [.reduce 120 5 75]⟩,
  ⟨false, [.reduce 120 5 75]⟩]

def entries6 : Array Entry := #[
  ⟨true, [.reduce 135 7 120]⟩,
  ⟨false, [.reduce 135 7 120]⟩,
  ⟨true, [.reduce 136 7 122]⟩,
  ⟨false, [.reduce 136 7 122]⟩,
  ⟨false, [.shift 334]⟩,
  ⟨true, [.shift 340]⟩,
  ⟨false, [.shift 1183]⟩,
  ⟨true, [.shift 1039]⟩,
  ⟨false, [.shift 928]⟩,
  ⟨true, [.shift 376]⟩,
  ⟨false, [.shift 573]⟩,
  ⟨true, [.shift 573]⟩,
  ⟨true, [.shift 574]⟩,
  ⟨false, [.shift 575]⟩,
  ⟨true, [.shift 928]⟩,
  ⟨true, [.shift 825]⟩,
  ⟨true, [.shift 1468]⟩,
  ⟨true, [.shift 675]⟩,
  ⟨false, [.shift 337]⟩,
  ⟨true, [.shift 336]⟩,
  ⟨false, [.shift 1148]⟩,
  ⟨true, [.shift 1037]⟩,
  ⟨false, [.shift 976]⟩,
  ⟨true, [.shift 371]⟩,
  ⟨false, [.shift 684]⟩,
  ⟨true, [.shift 684]⟩,
  ⟨true, [.shift 685]⟩,
  ⟨false, [.shift 686]⟩,
  ⟨true, [.shift 976]⟩,
  ⟨true, [.shift 816]⟩,
  ⟨true, [.shift 1305]⟩,
  ⟨true, [.shift 674]⟩,
  ⟨true, [.shift 6]⟩,
  ⟨true, [.shift 5]⟩,
  ⟨true, [.shift 7]⟩,
  ⟨false, [.shift 158]⟩,
  ⟨true, [.shift 330]⟩,
  ⟨false, [.shift 1185]⟩,
  ⟨true, [.shift 9]⟩,
  ⟨false, [.shift 232]⟩,
  ⟨true, [.shift 356]⟩,
  ⟨false, [.shift 611]⟩,
  ⟨true, [.shift 611]⟩,
  ⟨true, [.shift 612]⟩,
  ⟨false, [.shift 613]⟩,
  ⟨true, [.shift 232]⟩,
  ⟨true, [.shift 175]⟩,
  ⟨true, [.shift 1449]⟩,
  ⟨false, [.shift 167]⟩,
  ⟨true, [.shift 331]⟩,
  ⟨false, [.shift 1186]⟩,
  ⟨true, [.shift 11]⟩,
  ⟨false, [.shift 295]⟩,
  ⟨true, [.shift 365]⟩,
  ⟨false, [.shift 632]⟩,
  ⟨true, [.shift 632]⟩,
  ⟨true, [.shift 633]⟩,
  ⟨false, [.shift 634]⟩,
  ⟨true, [.shift 295]⟩,
  ⟨true, [.shift 238]⟩,
  ⟨true, [.shift 1288]⟩,
  ⟨false, [.shift 324]⟩,
  ⟨true, [.shift 341]⟩,
  ⟨false, [.shift 1184]⟩,
  ⟨true, [.shift 10]⟩,
  ⟨false, [.shift 892]⟩,
  ⟨true, [.shift 347]⟩,
  ⟨false, [.shift 592]⟩,
  ⟨true, [.shift 592]⟩,
  ⟨true, [.shift 593]⟩,
  ⟨false, [.shift 594]⟩,
  ⟨true, [.shift 892]⟩,
  ⟨true, [.shift 799]⟩,
  ⟨true, [.shift 1328]⟩,
  ⟨true, [.shift 8]⟩,
  ⟨true, [.shift 1043]⟩,
  ⟨false, [.shift 157]⟩,
  ⟨true, [.shift 1048]⟩,
  ⟨true, [.shift 1033]⟩,
  ⟨true, [.reduce 183 2 25, .shiftRepeat 483]⟩,
  ⟨true, [.shift 483]⟩,
  ⟨true, [.shift 352]⟩,
  ⟨true, [.shift 737]⟩,
  ⟨false, [.shift 559]⟩,
  ⟨true, [.shift 562]⟩,
  ⟨false, [.shift 566]⟩,
  ⟨true, [.shift 559]⟩,
  ⟨true, [.shift 567]⟩,
  ⟨true, [.shift 558]⟩,
  ⟨false, [.shift 563]⟩,
  ⟨true, [.shift 564]⟩,
  ⟨false, [.shift 565]⟩,
  ⟨false, [.shift 558]⟩,
  ⟨false, [.shift 568]⟩,
  ⟨true, [.shift 568]⟩,
  ⟨true, [.shift 560]⟩,
  ⟨true, [.shift 561]⟩,
  ⟨true, [.shift 458]⟩,
  ⟨false, [.shift 691]⟩,
  ⟨true, [.shift 569]⟩,
  ⟨true, [.reduce 183 2 25, .shiftRepeat 458]⟩,
  ⟨true, [.shift 345]⟩,
  ⟨true, [.shift 671]⟩,
  ⟨true, [.shift 800]⟩,
  ⟨true, [.shift 658]⟩,
  ⟨false, [.shift 659]⟩,
  ⟨true, [.shift 499]⟩,
  ⟨true, [.shift 661]⟩,
  ⟨true, [.shift 662]⟩,
  ⟨false, [.shift 663]⟩,
  ⟨true, [.shift 668]⟩,
  ⟨false, [.shift 669]⟩,
  ⟨false, [.shift 670]⟩,
  ⟨true, [.shift 659]⟩,
  ⟨false, [.shift 658]⟩,
  ⟨false, [.shift 672]⟩,
  ⟨true, [.shift 672]⟩,
  ⟨false, [.shift 660]⟩,
  ⟨true, [.shift 673]⟩,
  ⟨true, [.shift 1093]⟩,
  ⟨true, [.shift 464]⟩,
  ⟨true, [.shift 1232]⟩,
  ⟨true, [.shift 700]⟩,
  ⟨true, [.shift 484]⟩,
  ⟨true, [.shift 557]⟩,
  ⟨true, [.reduce 171 1 0]⟩,
  ⟨true, [.shift 485]⟩,
  ⟨true, [.reduce 183 2 25, .shiftRepeat 485]⟩]

def entries7 : Array Entry := #[
  ⟨true, [.shift 1091]⟩,
  ⟨true, [.shift 469]⟩,
  ⟨true, [.shift 1263]⟩,
  ⟨true, [.reduce 183 2 25, .shiftRepeat 484]⟩,
  ⟨true, [.shift 482]⟩,
  ⟨true, [.reduce 183 2 25, .shiftRepeat 482]⟩,
  ⟨true, [.shift 383]⟩,
  ⟨false, [.shift 578]⟩,
  ⟨true, [.shift 578]⟩,
  ⟨true, [.shift 586]⟩,
  ⟨true, [.shift 899]⟩,
  ⟨true, [.shift 348]⟩,
  ⟨false, [.shift 596]⟩,
  ⟨true, [.shift 599]⟩,
  ⟨false, [.shift 603]⟩,
  ⟨true, [.shift 596]⟩,
  ⟨true, [.shift 604]⟩,
  ⟨true, [.shift 908]⟩,
  ⟨true, [.shift 595]⟩,
  ⟨false, [.shift 600]⟩,
  ⟨true, [.shift 601]⟩,
  ⟨false, [.shift 602]⟩,
  ⟨false, [.shift 595]⟩,
  ⟨false, [.shift 605]⟩,
  ⟨true, [.shift 605]⟩,
  ⟨true, [.shift 375]⟩,
  ⟨true, [.shift 508]⟩,
  ⟨true, [.shift 955]⟩,
  ⟨true, [.shift 708]⟩,
  ⟨false, [.shift 500]⟩,
  ⟨true, [.shift 503]⟩,
  ⟨false, [.shift 507]⟩,
  ⟨true, [.shift 500]⟩,
  ⟨false, [.shift 708]⟩,
  ⟨true, [.shift 597]⟩,
  ⟨true, [.shift 501]⟩,
  ⟨true, [.shift 502]⟩,
  ⟨false, [.shift 504]⟩,
  ⟨true, [.shift 505]⟩,
  ⟨false, [.shift 506]⟩,
  ⟨false, [.shift 509]⟩,
  ⟨true, [.shift 509]⟩,
  ⟨false, [.shift 683]⟩,
  ⟨true, [.shift 510]⟩,
  ⟨true, [.shift 598]⟩,
  ⟨true, [.shift 657]⟩,
  ⟨false, [.shift 697]⟩,
  ⟨true, [.shift 606]⟩,
  ⟨true, [.shift 581]⟩,
  ⟨false, [.shift 585]⟩,
  ⟨true, [.shift 577]⟩,
  ⟨false, [.shift 582]⟩,
  ⟨true, [.shift 583]⟩,
  ⟨false, [.shift 584]⟩,
  ⟨false, [.shift 577]⟩,
  ⟨false, [.shift 587]⟩,
  ⟨true, [.shift 587]⟩,
  ⟨true, [.shift 579]⟩,
  ⟨false, [.shift 696]⟩,
  ⟨true, [.shift 580]⟩,
  ⟨true, [.shift 588]⟩,
  ⟨true, [.reduce 188 2 43]⟩,
  ⟨true, [.shift 1087]⟩,
  ⟨true, [.shift 471]⟩,
  ⟨true, [.shift 1227]⟩,
  ⟨true, [.shift 1095]⟩,
  ⟨true, [.shift 467]⟩,
  ⟨true, [.shift 1256]⟩,
  ⟨true, [.shift 1092]⟩,
  ⟨true, [.shift 459]⟩,
  ⟨true, [.shift 1234]⟩,
  ⟨true, [.reduce 164 1 0, .shift 557]⟩,
  ⟨true, [.reduce 164 1 0, .reduce 171 1 0]⟩,
  ⟨true, [.shift 610]⟩,
  ⟨true, [.reduce 163 2 36]⟩,
  ⟨true, [.shift 576]⟩,
  ⟨true, [.shift 1025]⟩,
  ⟨true, [.shift 937]⟩,
  ⟨true, [.reduce 166 3 58]⟩,
  ⟨true, [.shift 755]⟩,
  ⟨true, [.shift 962]⟩,
  ⟨true, [.shift 974]⟩,
  ⟨true, [.shift 901]⟩,
  ⟨true, [.shift 931]⟩,
  ⟨true, [.shift 945]⟩,
  ⟨true, [.shift 217]⟩,
  ⟨true, [.shift 749]⟩,
  ⟨true, [.reduce 166 5 106]⟩,
  ⟨true, [.shift 279]⟩,
  ⟨true, [.shift 285]⟩,
  ⟨true, [.shift 793]⟩,
  ⟨true, [.shift 789]⟩,
  ⟨true, [.reduce 164 1 0]⟩,
  ⟨true, [.shift 227]⟩,
  ⟨true, [.shift 572]⟩,
  ⟨true, [.shift 609]⟩,
  ⟨true, [.shift 647]⟩,
  ⟨true, [.shift 653]⟩,
  ⟨true, [.shift 591]⟩,
  ⟨true, [.shift 526]⟩,
  ⟨true, [.shift 631]⟩,
  ⟨false, [.reduce 184 2 12]⟩,
  ⟨true, [.reduce 184 2 12]⟩,
  ⟨false, [.reduce 184 2 0]⟩,
  ⟨true, [.reduce 184 2 0]⟩,
  ⟨true, [.shift 607]⟩,
  ⟨true, [.shift 608]⟩,
  ⟨true, [.shift 648]⟩,
  ⟨true, [.shift 649]⟩,
  ⟨true, [.shift 677]⟩,
  ⟨true, [.shift 678]⟩,
  ⟨true, [.shift 511]⟩,
  ⟨true, [.shift 512]⟩,
  ⟨true, [.shift 589]⟩,
  ⟨true, [.shift 590]⟩,
  ⟨true, [.shift 570]⟩,
  ⟨true, [.shift 571]⟩,
  ⟨true, [.shift 629]⟩,
  ⟨true, [.shift 630]⟩,
  ⟨true, [.shift 1123]⟩,
  ⟨true, [.shift 266]⟩,
  ⟨true, [.shift 462]⟩,
  ⟨true, [.shift 1434]⟩,
  ⟨true, [.shift 965]⟩,
  ⟨true, [.shift 943]⟩,
  ⟨true, [.shift 283]⟩,
  ⟨true, [.shift 956]⟩,
  ⟨true, [.shift 1174]⟩]

def entries8 : Array Entry := #[
  ⟨true, [.shift 1128]⟩,
  ⟨true, [.shift 1250]⟩,
  ⟨true, [.shift 1109]⟩,
  ⟨true, [.shift 656]⟩,
  ⟨true, [.shift 905]⟩,
  ⟨true, [.shift 947]⟩,
  ⟨true, [.shift 1169]⟩,
  ⟨true, [.shift 1167]⟩,
  ⟨true, [.shift 1206]⟩,
  ⟨true, [.shift 1100]⟩,
  ⟨true, [.shift 652]⟩,
  ⟨true, [.shift 827]⟩,
  ⟨true, [.shift 203]⟩,
  ⟨true, [.shift 214]⟩,
  ⟨true, [.shift 924]⟩,
  ⟨true, [.shift 809]⟩,
  ⟨true, [.shift 198]⟩,
  ⟨true, [.shift 914]⟩,
  ⟨true, [.shift 934]⟩,
  ⟨true, [.shift 753]⟩,
  ⟨true, [.shift 744]⟩,
  ⟨true, [.shift 972]⟩,
  ⟨true, [.shift 746]⟩,
  ⟨true, [.shift 821]⟩,
  ⟨true, [.shift 276]⟩,
  ⟨true, [.shift 302]⟩,
  ⟨true, [.shift 1064]⟩,
  ⟨true, [.shift 1329]⟩,
  ⟨true, [.shift 1478]⟩,
  ⟨true, [.shift 1218]⟩,
  ⟨true, [.reduce 188 2 45, .shiftRepeat 557]⟩,
  ⟨true, [.reduce 188 2 45]⟩,
  ⟨false, [.reduce 181 2 62, .shiftRepeat 302]⟩,
  ⟨false, [.reduce 181 2 62, .shiftRepeat 1342]⟩,
  ⟨true, [.reduce 181 2 62, .shiftRepeat 1341]⟩,
  ⟨true, [.shift 540]⟩,
  ⟨true, [.shift 465]⟩,
  ⟨true, [.shift 1354]⟩,
  ⟨true, [.shift 1327]⟩,
  ⟨false, [.shift 1321]⟩,
  ⟨true, [.shift 1302]⟩,
  ⟨true, [.shift 533]⟩,
  ⟨true, [.shift 1194]⟩,
  ⟨true, [.shift 1325]⟩,
  ⟨true, [.shift 1340]⟩,
  ⟨true, [.shift 1224]⟩,
  ⟨true, [.shift 1352]⟩,
  ⟨true, [.shift 1358]⟩,
  ⟨true, [.shift 454]⟩,
  ⟨true, [.shift 1371]⟩,
  ⟨true, [.shift 1375]⟩,
  ⟨true, [.shift 417]⟩,
  ⟨true, [.shift 1381]⟩,
  ⟨true, [.shift 1385]⟩,
  ⟨true, [.shift 1391]⟩,
  ⟨true, [.shift 1395]⟩,
  ⟨true, [.reduce 180 2 121]⟩,
  ⟨true, [.reduce 180 2 121, .shiftRepeat 465]⟩,
  ⟨true, [.reduce 180 2 121, .shiftRepeat 1354]⟩,
  ⟨true, [.shift 1401]⟩,
  ⟨true, [.shift 1405]⟩,
  ⟨true, [.shift 1411]⟩,
  ⟨true, [.shift 1415]⟩,
  ⟨true, [.reduce 170 2 24]⟩,
  ⟨true, [.shift 342]⟩,
  ⟨true, [.shift 473]⟩,
  ⟨true, [.shift 681]⟩,
  ⟨true, [.shift 169]⟩,
  ⟨true, [.shift 481]⟩,
  ⟨true, [.shift 317]⟩,
  ⟨true, [.shift 489]⟩,
  ⟨true, [.shift 378]⟩,
  ⟨true, [.shift 461]⟩,
  ⟨true, [.shift 312]⟩,
  ⟨true, [.shift 466]⟩,
  ⟨true, [.shift 615]⟩,
  ⟨true, [.shift 353]⟩,
  ⟨true, [.shift 457]⟩,
  ⟨true, [.reduce 188 2 45, .shiftRepeat 657]⟩,
  ⟨true, [.shift 161]⟩,
  ⟨true, [.shift 477]⟩,
  ⟨true, [.reduce 187 2 34, .shiftRepeat 302]⟩,
  ⟨true, [.reduce 187 2 34]⟩,
  ⟨true, [.shift 419]⟩,
  ⟨true, [.shift 324]⟩,
  ⟨true, [.shift 707]⟩,
  ⟨true, [.shift 702]⟩,
  ⟨true, [.shift 515]⟩,
  ⟨true, [.reduce 178 2 96]⟩,
  ⟨true, [.reduce 178 2 96, .shiftRepeat 1198]⟩,
  ⟨true, [.shift 1214]⟩,
  ⟨true, [.shift 396]⟩,
  ⟨true, [.shift 392]⟩,
  ⟨true, [.shift 142]⟩,
  ⟨true, [.shift 1198]⟩,
  ⟨true, [.shift 405]⟩,
  ⟨true, [.shift 665]⟩,
  ⟨true, [.shift 1212]⟩,
  ⟨true, [.shift 474]⟩,
  ⟨true, [.shift 410]⟩,
  ⟨true, [.reduce 182 2 62, .shiftRepeat 302]⟩,
  ⟨true, [.reduce 179 2 34, .shiftRepeat 302]⟩,
  ⟨true, [.reduce 179 2 34]⟩,
  ⟨true, [.shift 1251]⟩,
  ⟨true, [.shift 513]⟩,
  ⟨false, [.shift 1238]⟩,
  ⟨true, [.shift 1231]⟩,
  ⟨true, [.shift 153]⟩,
  ⟨true, [.shift 532]⟩,
  ⟨false, [.shift 1272]⟩,
  ⟨true, [.shift 1307]⟩,
  ⟨true, [.shift 1054]⟩,
  ⟨true, [.reduce 185 2 70, .shiftRepeat 402]⟩,
  ⟨true, [.reduce 185 2 70]⟩,
  ⟨true, [.shift 167]⟩,
  ⟨true, [.reduce 142 1 40]⟩,
  ⟨true, [.shift 1120]⟩,
  ⟨true, [.shift 1053]⟩,
  ⟨true, [.shift 770]⟩,
  ⟨true, [.shift 360]⟩,
  ⟨true, [.shift 772]⟩,
  ⟨true, [.reduce 188 2 45, .shiftRepeat 576]⟩,
  ⟨true, [.shift 1050]⟩,
  ⟨true, [.shift 309]⟩,
  ⟨true, [.shift 387]⟩,
  ⟨true, [.shift 748]⟩,
  ⟨true, [.reduce 188 2 45, .shiftRepeat 610]⟩,
  ⟨true, [.reduce 180 1 108]⟩]

def entries9 : Array Entry := #[
  ⟨true, [.reduce 180 1 109]⟩,
  ⟨true, [.shift 1040]⟩,
  ⟨true, [.shift 907]⟩,
  ⟨true, [.shift 384]⟩,
  ⟨true, [.shift 912]⟩,
  ⟨true, [.shift 667]⟩,
  ⟨true, [.shift 343]⟩,
  ⟨true, [.shift 792]⟩,
  ⟨true, [.shift 1052]⟩,
  ⟨true, [.shift 386]⟩,
  ⟨true, [.shift 959]⟩,
  ⟨true, [.shift 1063]⟩,
  ⟨true, [.shift 1068]⟩,
  ⟨true, [.shift 1049]⟩,
  ⟨true, [.shift 917]⟩,
  ⟨true, [.shift 349]⟩,
  ⟨true, [.shift 918]⟩,
  ⟨true, [.shift 1035]⟩,
  ⟨true, [.shift 350]⟩,
  ⟨true, [.shift 936]⟩,
  ⟨true, [.shift 1042]⟩,
  ⟨true, [.shift 806]⟩,
  ⟨true, [.reduce 176 2 27, .shiftRepeat 302]⟩,
  ⟨true, [.shift 1044]⟩,
  ⟨true, [.shift 204]⟩,
  ⟨true, [.shift 358]⟩,
  ⟨true, [.shift 205]⟩,
  ⟨true, [.shift 1047]⟩,
  ⟨true, [.shift 359]⟩,
  ⟨true, [.shift 216]⟩,
  ⟨true, [.reduce 177 2 27, .shiftRepeat 302]⟩,
  ⟨true, [.shift 1055]⟩,
  ⟨true, [.shift 268]⟩,
  ⟨true, [.shift 367]⟩,
  ⟨true, [.shift 272]⟩,
  ⟨true, [.shift 1036]⟩,
  ⟨true, [.shift 369]⟩,
  ⟨true, [.shift 278]⟩,
  ⟨true, [.shift 158]⟩,
  ⟨true, [.shift 1034]⟩,
  ⟨true, [.shift 922]⟩,
  ⟨true, [.reduce 186 2 0, .shiftRepeat 1056]⟩,
  ⟨true, [.reduce 186 2 0]⟩,
  ⟨true, [.shift 379]⟩,
  ⟨true, [.shift 925]⟩,
  ⟨true, [.shift 1045]⟩,
  ⟨true, [.shift 374]⟩,
  ⟨true, [.shift 898]⟩,
  ⟨false, [.reduce 181 2 60]⟩,
  ⟨true, [.reduce 181 2 60]⟩,
  ⟨true, [.reduce 137 1 39]⟩,
  ⟨true, [.shift 1241]⟩,
  ⟨true, [.shift 1073]⟩,
  ⟨true, [.shift 1076]⟩,
  ⟨true, [.shift 1078]⟩,
  ⟨true, [.shift 1081]⟩,
  ⟨true, [.shift 1083]⟩,
  ⟨true, [.shift 344]⟩,
  ⟨true, [.shift 788]⟩,
  ⟨true, [.shift 1024]⟩,
  ⟨true, [.shift 932]⟩,
  ⟨true, [.shift 218]⟩,
  ⟨true, [.shift 145]⟩,
  ⟨true, [.shift 23]⟩,
  ⟨true, [.shift 1245]⟩,
  ⟨true, [.reduce 129 2 57]⟩,
  ⟨true, [.shift 491]⟩,
  ⟨true, [.shift 141]⟩,
  ⟨true, [.shift 100]⟩,
  ⟨true, [.shift 228]⟩,
  ⟨true, [.shift 1226]⟩,
  ⟨true, [.shift 25]⟩,
  ⟨true, [.shift 470]⟩,
  ⟨true, [.shift 975]⟩,
  ⟨true, [.reduce 137 3 86]⟩,
  ⟨true, [.reduce 137 3 87]⟩,
  ⟨true, [.shift 1106]⟩,
  ⟨true, [.shift 1357]⟩,
  ⟨true, [.reduce 140 1 14]⟩,
  ⟨true, [.shift 280]⟩,
  ⟨true, [.shift 286]⟩,
  ⟨true, [.reduce 177 2 28, .shift 302]⟩,
  ⟨true, [.reduce 187 2 8]⟩,
  ⟨true, [.shift 1213]⟩,
  ⟨true, [.shift 1368]⟩,
  ⟨true, [.reduce 166 1 12]⟩,
  ⟨true, [.reduce 185 2 68]⟩,
  ⟨true, [.shift 1452]⟩,
  ⟨true, [.shift 438]⟩,
  ⟨true, [.shift 1102]⟩,
  ⟨true, [.shift 1382]⟩,
  ⟨true, [.shift 1179]⟩,
  ⟨true, [.shift 1418]⟩,
  ⟨true, [.reduce 129 1 35]⟩,
  ⟨true, [.shift 152]⟩,
  ⟨true, [.shift 54]⟩,
  ⟨true, [.shift 1257]⟩,
  ⟨true, [.shift 55]⟩,
  ⟨true, [.shift 154]⟩,
  ⟨true, [.shift 62]⟩,
  ⟨true, [.shift 964]⟩,
  ⟨true, [.shift 750]⟩,
  ⟨true, [.reduce 142 3 89]⟩,
  ⟨true, [.shift 938]⟩,
  ⟨true, [.shift 1196]⟩,
  ⟨true, [.shift 110]⟩,
  ⟨true, [.shift 756]⟩,
  ⟨true, [.shift 525]⟩,
  ⟨true, [.reduce 142 3 90]⟩,
  ⟨true, [.shift 890]⟩,
  ⟨true, [.shift 903]⟩,
  ⟨true, [.reduce 179 2 35]⟩,
  ⟨true, [.shift 531]⟩,
  ⟨true, [.shift 1293]⟩,
  ⟨true, [.shift 802]⟩,
  ⟨true, [.shift 1246]⟩,
  ⟨true, [.shift 401]⟩,
  ⟨true, [.shift 790]⟩,
  ⟨true, [.shift 1122]⟩,
  ⟨true, [.reduce 164 1 12]⟩,
  ⟨true, [.shift 651]⟩,
  ⟨true, [.shift 1258]⟩,
  ⟨true, [.shift 64]⟩,
  ⟨true, [.shift 1404]⟩,
  ⟨true, [.shift 306]⟩,
  ⟨true, [.reduce 177 2 28]⟩,
  ⟨true, [.shift 780]⟩,
  ⟨true, [.shift 1450]⟩]

def entries10 : Array Entry := #[
  ⟨true, [.reduce 123 4 97]⟩,
  ⟨true, [.shift 164]⟩,
  ⟨true, [.shift 185]⟩,
  ⟨true, [.reduce 176 4 73]⟩,
  ⟨true, [.shift 436]⟩,
  ⟨true, [.accept]⟩,
  ⟨true, [.reduce 124 4 98]⟩,
  ⟨true, [.shift 666]⟩,
  ⟨true, [.shift 163]⟩,
  ⟨true, [.shift 1191]⟩,
  ⟨true, [.shift 1066]⟩,
  ⟨true, [.shift 1366]⟩,
  ⟨true, [.shift 680]⟩,
  ⟨true, [.reduce 123 6 126]⟩,
  ⟨true, [.shift 275]⟩,
  ⟨false, [.shiftExtra]⟩,
  ⟨true, [.reduce 177 4 73]⟩,
  ⟨true, [.shift 773]⟩,
  ⟨true, [.shift 808]⟩,
  ⟨true, [.shift 496]⟩,
  ⟨true, [.reduce 138 4 88]⟩,
  ⟨true, [.shift 267]⟩,
  ⟨true, [.shift 430]⟩,
  ⟨true, [.shift 368]⟩,
  ⟨true, [.shift 884]⟩,
  ⟨true, [.reduce 125 1 31]⟩,
  ⟨true, [.shift 35]⟩,
  ⟨true, [.shift 423]⟩,
  ⟨true, [.shift 44]⟩,
  ⟨true, [.shift 1276]⟩,
  ⟨true, [.shift 979]⟩,
  ⟨true, [.reduce 124 4 99]⟩,
  ⟨true, [.shift 171]⟩,
  ⟨true, [.shift 259]⟩,
  ⟨true, [.reduce 125 1 32]⟩,
  ⟨true, [.shift 372]⟩,
  ⟨true, [.shift 138]⟩,
  ⟨true, [.shift 314]⟩,
  ⟨true, [.shift 727]⟩,
  ⟨true, [.shift 172]⟩,
  ⟨true, [.shift 432]⟩,
  ⟨true, [.reduce 167 2 0]⟩,
  ⟨true, [.shift 424]⟩,
  ⟨true, [.shift 1355]⟩,
  ⟨true, [.shift 654]⟩,
  ⟨true, [.shift 1242]⟩,
  ⟨true, [.reduce 167 3 33]⟩,
  ⟨true, [.shift 815]⟩,
  ⟨true, [.shift 1462]⟩,
  ⟨true, [.shift 26]⟩,
  ⟨true, [.reduce 124 5 113]⟩,
  ⟨true, [.shift 49]⟩,
  ⟨true, [.shift 894]⟩,
  ⟨true, [.shift 1244]⟩,
  ⟨true, [.reduce 124 5 115]⟩,
  ⟨true, [.shift 1378]⟩,
  ⟨true, [.shift 1379]⟩,
  ⟨true, [.shift 1235]⟩,
  ⟨true, [.shift 494]⟩,
  ⟨true, [.shift 497]⟩,
  ⟨true, [.shift 1425]⟩,
  ⟨true, [.shift 1398]⟩,
  ⟨true, [.shift 514]⟩,
  ⟨true, [.shift 516]⟩,
  ⟨true, [.shift 51]⟩,
  ⟨true, [.shift 1247]⟩,
  ⟨true, [.shift 893]⟩,
  ⟨true, [.reduce 124 3 77]⟩,
  ⟨true, [.shift 915]⟩,
  ⟨true, [.shift 53]⟩,
  ⟨true, [.reduce 123 5 116]⟩,
  ⟨true, [.shift 1065]⟩,
  ⟨true, [.shift 313]⟩,
  ⟨true, [.shift 1442]⟩,
  ⟨true, [.shift 1444]⟩,
  ⟨true, [.shift 56]⟩,
  ⟨true, [.shift 1300]⟩,
  ⟨true, [.shift 15]⟩,
  ⟨true, [.reduce 167 4 54]⟩,
  ⟨true, [.shift 1419]⟩,
  ⟨true, [.shift 437]⟩,
  ⟨true, [.shift 65]⟩,
  ⟨true, [.shift 67]⟩,
  ⟨true, [.shift 407]⟩,
  ⟨true, [.shift 493]⟩,
  ⟨true, [.shift 73]⟩,
  ⟨true, [.shift 75]⟩,
  ⟨true, [.shift 78]⟩,
  ⟨true, [.shift 1059]⟩,
  ⟨true, [.shift 1075]⟩,
  ⟨true, [.shift 650]⟩,
  ⟨true, [.reduce 167 4 55]⟩,
  ⟨true, [.shift 520]⟩,
  ⟨true, [.shift 1314]⟩,
  ⟨true, [.shift 82]⟩,
  ⟨true, [.shift 136]⟩,
  ⟨true, [.shift 1435]⟩,
  ⟨true, [.shift 84]⟩,
  ⟨true, [.shift 85]⟩,
  ⟨true, [.shift 88]⟩,
  ⟨true, [.shift 522]⟩,
  ⟨true, [.shift 523]⟩,
  ⟨true, [.shift 1297]⟩,
  ⟨true, [.shift 92]⟩,
  ⟨true, [.shift 524]⟩,
  ⟨true, [.shift 382]⟩,
  ⟨true, [.shift 94]⟩,
  ⟨true, [.shift 95]⟩,
  ⟨true, [.shift 468]⟩,
  ⟨true, [.shift 889]⟩,
  ⟨true, [.shift 664]⟩,
  ⟨true, [.shift 1197]⟩,
  ⟨true, [.shift 1387]⟩,
  ⟨true, [.shift 102]⟩,
  ⟨true, [.shift 411]⟩,
  ⟨true, [.shift 463]⟩,
  ⟨true, [.shift 104]⟩,
  ⟨true, [.shift 105]⟩,
  ⟨true, [.shift 108]⟩,
  ⟨true, [.shift 385]⟩,
  ⟨true, [.shift 857]⟩,
  ⟨true, [.reduce 123 3 82]⟩,
  ⟨true, [.shift 1274]⟩,
  ⟨true, [.shift 112]⟩,
  ⟨true, [.shift 181]⟩,
  ⟨true, [.shift 114]⟩,
  ⟨true, [.shift 115]⟩,
  ⟨true, [.shift 118]⟩]

def entries11 : Array Entry := #[
  ⟨true, [.shift 364]⟩,
  ⟨true, [.shift 1067]⟩,
  ⟨true, [.shift 448]⟩,
  ⟨true, [.shift 1309]⟩,
  ⟨true, [.shift 122]⟩,
  ⟨true, [.shift 1320]⟩,
  ⟨true, [.shift 17]⟩,
  ⟨true, [.shift 124]⟩,
  ⟨true, [.shift 125]⟩,
  ⟨true, [.shift 128]⟩,
  ⟨true, [.shift 307]⟩,
  ⟨true, [.reduce 138 3 61]⟩,
  ⟨true, [.reduce 167 5 83]⟩,
  ⟨true, [.reduce 129 2 56]⟩,
  ⟨true, [.shift 1346]⟩,
  ⟨true, [.shift 435]⟩,
  ⟨true, [.shift 1348]⟩,
  ⟨true, [.shift 1225]⟩,
  ⟨true, [.shift 90]⟩,
  ⟨true, [.shift 370]⟩,
  ⟨true, [.shift 1228]⟩,
  ⟨true, [.shift 1265]⟩,
  ⟨true, [.reduce 139 3 63]⟩,
  ⟨true, [.shift 1359]⟩,
  ⟨true, [.shift 1362]⟩,
  ⟨true, [.shift 1363]⟩,
  ⟨true, [.shift 1364]⟩,
  ⟨true, [.shift 40]⟩,
  ⟨true, [.shift 1374]⟩,
  ⟨true, [.shift 1301]⟩,
  ⟨true, [.shift 1376]⟩,
  ⟨true, [.shift 1318]⟩,
  ⟨true, [.shift 1384]⟩,
  ⟨true, [.shift 535]⟩,
  ⟨true, [.shift 1482]⟩,
  ⟨true, [.shift 536]⟩,
  ⟨true, [.shift 476]⟩,
  ⟨true, [.shift 1394]⟩,
  ⟨true, [.shift 492]⟩,
  ⟨true, [.shift 1396]⟩,
  ⟨true, [.shift 208]⟩,
  ⟨true, [.shift 28]⟩,
  ⟨true, [.shift 614]⟩,
  ⟨true, [.reduce 182 2 60]⟩,
  ⟨true, [.shift 1406]⟩,
  ⟨true, [.shift 46]⟩,
  ⟨true, [.shift 1303]⟩,
  ⟨true, [.shift 1414]⟩,
  ⟨true, [.shift 323]⟩,
  ⟨true, [.shift 1416]⟩,
  ⟨true, [.shift 495]⟩,
  ⟨true, [.shift 1069]⟩,
  ⟨true, [.shift 147]⟩,
  ⟨true, [.shift 758]⟩,
  ⟨true, [.shift 1070]⟩,
  ⟨true, [.shift 318]⟩,
  ⟨true, [.shift 1071]⟩,
  ⟨true, [.shift 1422]⟩,
  ⟨true, [.shift 985]⟩,
  ⟨true, [.shift 939]⟩,
  ⟨true, [.shift 1074]⟩,
  ⟨true, [.reduce 124 4 101]⟩,
  ⟨true, [.shift 1077]⟩,
  ⟨true, [.shift 390]⟩,
  ⟨true, [.shift 1079]⟩,
  ⟨true, [.reduce 129 3 84]⟩,
  ⟨true, [.shift 1082]⟩,
  ⟨true, [.shift 1084]⟩,
  ⟨true, [.shift 120]⟩,
  ⟨true, [.shift 488]⟩,
  ⟨true, [.shift 132]⟩,
  ⟨true, [.shift 498]⟩,
  ⟨true, [.shift 98]⟩]

/-- The entries in blocks of 128. -/
def entries : Array (Array Entry) :=
  #[entries0, entries1, entries2, entries3, entries4, entries5, entries6, entries7, entries8, entries9,
    entries10, entries11]

end Ucode.Grammar
