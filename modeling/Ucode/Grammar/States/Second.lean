import Ucode.Grammar.StateRow

/-!
# Parse states 384 to 767
-/
namespace Ucode.Grammar

/-- Parse states from 384 on. -/
def states6 : Array StateRow := #[
  ⟨14, 0602_003_0605_012_0621_031_0606_013_0607_014_0609_020_0660_146_0613_024_0002_002_0615_027_0616_028_0610_021_0611_022_0612_023_0614_026_0608_019, 1031_016_1262_021_1217_032_1361_017_0304_019_0308_015_1009_013_0771_014⟩,
  ⟨15, 0002_002_0435_133_0434_160, 0⟩,
  ⟨14, 0602_003_0605_012_0621_031_0606_013_0607_014_0609_020_0661_146_0613_024_0002_002_0615_027_0616_028_0610_021_0611_022_0612_023_0614_026_0608_019, 1031_016_1262_021_1217_032_1361_017_0304_019_0308_015_1009_013_0771_014⟩,
  ⟨14, 0602_003_0605_012_0621_031_0606_013_0607_014_0609_020_0662_146_0613_024_0002_002_0615_027_0616_028_0610_021_0611_022_0612_023_0614_026_0608_019, 1031_016_1262_021_1217_032_1361_017_0304_019_0308_015_1009_013_0771_014⟩,
  ⟨1, 0002_002_0663_150_0664_151, 0⟩,
  ⟨1, 0002_002_0665_150_0666_151, 0⟩,
  ⟨10, 0602_003_0605_012_0667_152_0606_013_0607_014_0609_020_0613_024_0002_002_0615_027_0616_028_0610_021_0611_022_0612_023_0614_026_0608_019, 1031_016_1361_017_0304_019_0308_015_1278_018_0798_013_0771_014⟩,
  ⟨10, 0602_003_0605_012_0668_152_0606_013_0607_014_0609_020_0613_024_0002_002_0615_027_0616_028_0610_021_0611_022_0612_023_0614_026_0608_019, 1031_016_1361_017_0304_019_0308_015_1306_018_0798_013_0771_014⟩,
  ⟨1, 0002_002_0669_150_0670_151, 0⟩,
  ⟨1, 0002_002_0671_150_0672_151, 0⟩,
  ⟨10, 0602_003_0605_012_0673_152_0606_013_0607_014_0609_020_0613_024_0002_002_0615_027_0616_028_0610_021_0611_022_0612_023_0614_026_0608_019, 1031_016_1361_017_0304_019_0308_015_1470_018_0798_013_0771_014⟩,
  ⟨1, 0002_002_0674_150_0675_151, 0⟩,
  ⟨1, 0002_002_0669_150_0670_151, 0⟩,
  ⟨1, 0002_002_0676_150_0677_151, 0⟩,
  ⟨1, 0002_002_0678_150_0679_151, 0⟩,
  ⟨1, 0002_002_0680_150_0681_151, 0⟩,
  ⟨1, 0002_002_0528_150_0529_151, 0⟩,
  ⟨1, 0002_002_0682_150_0683_151, 0⟩,
  ⟨14, 0602_003_0605_012_0621_031_0606_013_0607_014_0609_020_0613_024_0002_002_0615_027_0616_028_0610_021_0611_022_0612_023_0614_026_0608_019, 1031_016_1262_021_1217_032_1361_017_0304_019_0308_015_1009_013_0771_014⟩,
  ⟨1, 0002_002_0684_150_0685_151, 0⟩,
  ⟨1, 0002_002_0686_150_0687_151, 0⟩,
  ⟨1, 0002_002_0688_150_0689_151, 0⟩,
  ⟨1, 0692_035_0002_002_0690_150_0691_161, 0⟩,
  ⟨10, 0602_003_0605_012_0693_152_0606_013_0607_014_0609_020_0613_024_0002_002_0615_027_0616_028_0610_021_0611_022_0612_023_0614_026_0608_019, 1031_016_1361_017_0304_019_0308_015_1326_018_0798_013_0771_014⟩,
  ⟨1, 0002_002_0694_150_0695_151, 0⟩,
  ⟨1, 0002_002_0696_150_0697_151, 0⟩,
  ⟨1, 0002_002_0698_150_0699_151, 0⟩,
  ⟨10, 0602_003_0605_012_0700_152_0606_013_0607_014_0609_020_0613_024_0002_002_0615_027_0616_028_0610_021_0611_022_0612_023_0614_026_0608_019, 1031_016_1361_017_0304_019_0308_015_1330_018_0798_013_0771_014⟩,
  ⟨1, 0002_002_0701_150_0702_151, 0⟩,
  ⟨10, 0602_003_0703_139_0605_012_0606_013_0607_014_0609_020_0613_024_0002_002_0615_027_0616_028_0610_021_0611_022_0612_023_0614_026_0608_019, 1031_016_1361_017_0304_019_0308_015_1472_018_0798_013_0771_014⟩,
  ⟨1, 0002_002_0540_150_0541_151, 0⟩,
  ⟨1, 0002_002_0544_150_0545_151, 0⟩,
  ⟨1, 0002_002_0704_150_0705_151, 0⟩,
  ⟨1, 0002_002_0706_150_0707_151, 0⟩,
  ⟨1, 0002_002_0704_150_0705_151, 0⟩,
  ⟨1, 0002_002_0708_150_0709_151, 0⟩,
  ⟨1, 0002_002_0710_150_0711_151, 0⟩,
  ⟨1, 0002_002_0712_150_0713_151, 0⟩,
  ⟨14, 0602_003_0605_012_0621_031_0606_013_0607_014_0609_020_0613_024_0002_002_0615_027_0616_028_0610_021_0611_022_0612_023_0614_026_0608_019, 1031_016_1259_021_1361_017_0304_019_0440_034_0308_015_1007_013_0771_014⟩,
  ⟨1, 0002_002_0714_150_0715_151, 0⟩,
  ⟨1, 0002_002_0716_150_0717_151, 0⟩,
  ⟨1, 0002_002_0718_150_0719_151, 0⟩,
  ⟨1, 0002_002_0720_150_0721_151, 0⟩,
  ⟨1, 0002_002_0722_150_0723_151, 0⟩,
  ⟨1, 0002_002_0724_150_0725_151, 0⟩,
  ⟨10, 0602_003_0605_012_0726_152_0606_013_0607_014_0609_020_0613_024_0002_002_0615_027_0616_028_0610_021_0611_022_0612_023_0614_026_0608_019, 1031_016_1361_017_0304_019_0308_015_1344_018_0798_013_0771_014⟩,
  ⟨10, 0602_003_0727_139_0605_012_0606_013_0607_014_0609_020_0613_024_0002_002_0615_027_0616_028_0610_021_0611_022_0612_023_0614_026_0608_019, 1031_016_1361_017_0304_019_0308_015_1360_018_0798_013_0771_014⟩,
  ⟨1, 0002_002_0728_150_0729_151, 0⟩,
  ⟨10, 0602_003_0730_139_0605_012_0606_013_0607_014_0609_020_0613_024_0002_002_0615_027_0616_028_0610_021_0611_022_0612_023_0614_026_0608_019, 1031_016_1361_017_0304_019_0308_015_1392_018_0798_013_0771_014⟩,
  ⟨1, 0002_002_0674_150_0675_151, 0⟩,
  ⟨1, 0002_002_0731_150_0732_151, 0⟩,
  ⟨1, 0002_002_0733_150_0734_151, 0⟩,
  ⟨1, 0002_002_0735_150_0736_151, 0⟩,
  ⟨1, 0002_002_0737_150_0738_151, 0⟩,
  ⟨1, 0002_002_0739_150_0740_151, 0⟩,
  ⟨14, 0602_003_0605_012_0621_031_0606_013_0607_014_0609_020_0613_024_0002_002_0615_027_0616_028_0610_021_0611_022_0612_023_0614_026_0608_019, 1031_016_1189_021_1361_017_0304_019_0440_034_0308_015_0998_013_0771_014⟩,
  ⟨14, 0741_003_0742_012_0743_031_0744_013_0745_014_0747_020_0751_024_0002_002_0753_027_0754_028_0748_021_0749_022_0750_023_0752_026_0746_019, 1031_016_1440_021_1361_017_0304_019_0440_034_0308_015_1023_013_0771_014⟩,
  ⟨1, 0002_002_0536_150_0537_151, 0⟩,
  ⟨1, 0002_002_0755_150_0756_151, 0⟩,
  ⟨1, 0002_002_0757_150_0758_151, 0⟩,
  ⟨1, 0002_002_0759_150_0760_151, 0⟩,
  ⟨14, 0602_003_0605_012_0621_031_0606_013_0607_014_0609_020_0613_024_0002_002_0615_027_0616_028_0610_021_0611_022_0612_023_0614_026_0608_019, 1031_016_1236_021_1361_017_0304_019_0440_034_0308_015_0994_013_0771_014⟩,
  ⟨1, 0002_002_0761_150_0762_151, 0⟩,
  ⟨14, 0602_003_0605_012_0621_031_0606_013_0607_014_0609_020_0613_024_0002_002_0615_027_0616_028_0610_021_0611_022_0612_023_0614_026_0608_019, 1031_016_1199_021_1361_017_0304_019_0440_034_0308_015_0996_013_0771_014⟩]

/-- Parse states from 448 on. -/
def states7 : Array StateRow := #[
  ⟨1, 0002_002_0763_150_0764_151, 0⟩,
  ⟨14, 0602_003_0605_012_0621_031_0606_013_0607_014_0609_020_0613_024_0002_002_0615_027_0616_028_0610_021_0611_022_0612_023_0614_026_0608_019, 1031_016_1239_021_1361_017_0304_019_0440_034_0308_015_0999_013_0771_014⟩,
  ⟨1, 0002_002_0765_150_0766_151, 0⟩,
  ⟨14, 0602_003_0605_012_0621_031_0606_013_0607_014_0609_020_0613_024_0002_002_0615_027_0616_028_0610_021_0611_022_0612_023_0614_026_0608_019, 1031_016_1195_021_1361_017_0304_019_0440_034_0308_015_1013_013_0771_014⟩,
  ⟨1, 0002_002_0767_150_0768_151, 0⟩,
  ⟨14, 0602_003_0605_012_0621_031_0606_013_0607_014_0609_020_0613_024_0002_002_0615_027_0616_028_0610_021_0611_022_0612_023_0614_026_0608_019, 1031_016_1211_021_1361_017_0304_019_0440_034_0308_015_1005_013_0771_014⟩,
  ⟨1, 0002_002_0769_150_0770_151, 0⟩,
  ⟨1, 0002_002_0771_150_0772_151, 0⟩,
  ⟨1, 0002_002_0724_150_0725_151, 0⟩,
  ⟨10, 0602_003_0605_012_0606_013_0607_014_0609_020_0613_024_0002_002_0615_027_0616_028_0610_021_0611_022_0612_023_0614_026_0608_019, 1031_016_1361_017_0304_019_0308_015_1311_018_0798_013_0771_014⟩,
  ⟨10, 0773_003_0774_012_0775_013_0776_014_0778_020_0782_024_0002_002_0784_027_0785_028_0779_021_0780_022_0781_023_0783_026_0777_019, 1030_016_1481_017_0332_019_0351_015_1324_018_0991_013_0928_014⟩,
  ⟨10, 0602_003_0605_012_0606_013_0607_014_0609_020_0613_024_0002_002_0615_027_0616_028_0610_021_0611_022_0612_023_0614_026_0608_019, 1031_016_1361_017_0304_019_0308_015_1397_018_0798_013_0771_014⟩,
  ⟨3, 0786_049_0628_106_0002_002_0629_163_0630_162, 0⟩,
  ⟨10, 0602_003_0605_012_0606_013_0607_014_0609_020_0613_024_0002_002_0615_027_0616_028_0610_021_0611_022_0612_023_0614_026_0608_019, 1031_016_1361_017_0304_019_0308_015_1426_018_0798_013_0771_014⟩,
  ⟨10, 0602_003_0605_012_0606_013_0607_014_0609_020_0613_024_0002_002_0615_027_0616_028_0610_021_0611_022_0612_023_0614_026_0608_019, 1031_016_1361_017_0304_019_0308_015_1412_018_0798_013_0771_014⟩,
  ⟨10, 0602_003_0605_012_0606_013_0607_014_0609_020_0613_024_0002_002_0615_027_0616_028_0610_021_0611_022_0612_023_0614_026_0608_019, 1031_016_1361_017_0304_019_0308_015_1347_018_0798_013_0771_014⟩,
  ⟨10, 0602_003_0605_012_0606_013_0607_014_0609_020_0613_024_0002_002_0615_027_0616_028_0610_021_0611_022_0612_023_0614_026_0608_019, 1031_016_1361_017_0304_019_0308_015_1313_018_0798_013_0771_014⟩,
  ⟨10, 0602_003_0605_012_0606_013_0607_014_0609_020_0613_024_0002_002_0615_027_0616_028_0610_021_0611_022_0612_023_0614_026_0608_019, 1031_016_1361_017_0304_019_0308_015_1413_018_0798_013_0771_014⟩,
  ⟨10, 0602_003_0605_012_0606_013_0607_014_0609_020_0613_024_0002_002_0615_027_0616_028_0610_021_0611_022_0612_023_0614_026_0608_019, 1031_016_1361_017_0304_019_0308_015_1349_018_0798_013_0771_014⟩,
  ⟨10, 0602_003_0605_012_0606_013_0607_014_0609_020_0613_024_0002_002_0615_027_0616_028_0610_021_0611_022_0612_023_0614_026_0608_019, 1031_016_1361_017_0304_019_0308_015_1296_018_0798_013_0771_014⟩,
  ⟨10, 0602_003_0605_012_0606_013_0607_014_0609_020_0613_024_0002_002_0615_027_0616_028_0610_021_0611_022_0612_023_0614_026_0608_019, 1031_016_1361_017_0304_019_0308_015_1286_018_0798_013_0771_014⟩,
  ⟨10, 0602_003_0605_012_0606_013_0607_014_0609_020_0613_024_0002_002_0615_027_0616_028_0610_021_0611_022_0612_023_0614_026_0608_019, 1031_016_1361_017_0304_019_0308_015_1464_018_0798_013_0771_014⟩,
  ⟨10, 0602_003_0605_012_0606_013_0607_014_0609_020_0613_024_0002_002_0615_027_0616_028_0610_021_0611_022_0612_023_0614_026_0608_019, 1031_016_1361_017_0304_019_0308_015_1269_018_0798_013_0771_014⟩,
  ⟨10, 0602_003_0605_012_0606_013_0607_014_0609_020_0613_024_0002_002_0615_027_0616_028_0610_021_0611_022_0612_023_0614_026_0608_019, 1031_016_1361_017_0304_019_0308_015_1383_018_0798_013_0771_014⟩,
  ⟨10, 0787_003_0788_012_0789_013_0790_014_0792_020_0796_024_0002_002_0798_027_0799_028_0793_021_0794_022_0795_023_0797_026_0791_019, 1029_016_1334_017_0327_019_0362_015_1409_018_0989_013_0976_014⟩,
  ⟨10, 0602_003_0605_012_0606_013_0607_014_0609_020_0613_024_0002_002_0615_027_0616_028_0610_021_0611_022_0612_023_0614_026_0608_019, 1031_016_1361_017_0304_019_0308_015_1407_018_0798_013_0771_014⟩,
  ⟨10, 0602_003_0605_012_0606_013_0607_014_0609_020_0613_024_0002_002_0615_027_0616_028_0610_021_0611_022_0612_023_0614_026_0608_019, 1031_016_1361_017_0304_019_0308_015_1271_018_0798_013_0771_014⟩,
  ⟨10, 0602_003_0605_012_0606_013_0607_014_0609_020_0613_024_0002_002_0615_027_0616_028_0610_021_0611_022_0612_023_0614_026_0608_019, 1031_016_1361_017_0304_019_0308_015_1273_018_0798_013_0771_014⟩,
  ⟨10, 0602_003_0605_012_0606_013_0607_014_0609_020_0613_024_0002_002_0615_027_0616_028_0610_021_0611_022_0612_023_0614_026_0608_019, 1031_016_1361_017_0304_019_0308_015_1283_018_0798_013_0771_014⟩,
  ⟨10, 0602_003_0605_012_0606_013_0607_014_0609_020_0613_024_0002_002_0615_027_0616_028_0610_021_0611_022_0612_023_0614_026_0608_019, 1031_016_1361_017_0304_019_0308_015_1280_018_0798_013_0771_014⟩,
  ⟨10, 0602_003_0605_012_0606_013_0607_014_0609_020_0613_024_0002_002_0615_027_0616_028_0610_021_0611_022_0612_023_0614_026_0608_019, 1031_016_1361_017_0304_019_0308_015_1399_018_0798_013_0771_014⟩,
  ⟨10, 0602_003_0605_012_0606_013_0607_014_0609_020_0613_024_0002_002_0615_027_0616_028_0610_021_0611_022_0612_023_0614_026_0608_019, 1031_016_1361_017_0304_019_0308_015_1308_018_0798_013_0771_014⟩,
  ⟨3, 0800_049_0628_106_0002_002_0625_163_0626_162, 0⟩,
  ⟨10, 0602_003_0605_012_0606_013_0607_014_0609_020_0613_024_0002_002_0615_027_0616_028_0610_021_0611_022_0612_023_0614_026_0608_019, 1031_016_1361_017_0304_019_0308_015_1315_018_0798_013_0771_014⟩,
  ⟨10, 0773_003_0774_012_0775_013_0776_014_0778_020_0782_024_0002_002_0784_027_0785_028_0779_021_0780_022_0781_023_0783_026_0777_019, 1030_016_1481_017_0332_019_0351_015_1337_018_0991_013_0928_014⟩,
  ⟨10, 0773_003_0774_012_0775_013_0776_014_0778_020_0782_024_0002_002_0784_027_0785_028_0779_021_0780_022_0781_023_0783_026_0777_019, 1030_016_1481_017_0332_019_0351_015_1370_018_0991_013_0928_014⟩,
  ⟨10, 0773_003_0774_012_0775_013_0776_014_0778_020_0782_024_0002_002_0784_027_0785_028_0779_021_0780_022_0781_023_0783_026_0777_019, 1030_016_1481_017_0332_019_0351_015_1380_018_0991_013_0928_014⟩,
  ⟨10, 0773_003_0774_012_0775_013_0776_014_0778_020_0782_024_0002_002_0784_027_0785_028_0779_021_0780_022_0781_023_0783_026_0777_019, 1030_016_1481_017_0332_019_0351_015_1390_018_0991_013_0928_014⟩,
  ⟨10, 0773_003_0774_012_0775_013_0776_014_0778_020_0782_024_0002_002_0784_027_0785_028_0779_021_0780_022_0781_023_0783_026_0777_019, 1030_016_1481_017_0332_019_0351_015_1400_018_0991_013_0928_014⟩,
  ⟨10, 0773_003_0774_012_0775_013_0776_014_0778_020_0782_024_0002_002_0784_027_0785_028_0779_021_0780_022_0781_023_0783_026_0777_019, 1030_016_1481_017_0332_019_0351_015_1410_018_0991_013_0928_014⟩,
  ⟨10, 0602_003_0605_012_0606_013_0607_014_0609_020_0613_024_0002_002_0615_027_0616_028_0610_021_0611_022_0612_023_0614_026_0608_019, 1031_016_1361_017_0304_019_0308_015_1423_018_0798_013_0771_014⟩,
  ⟨10, 0602_003_0605_012_0606_013_0607_014_0609_020_0613_024_0002_002_0615_027_0616_028_0610_021_0611_022_0612_023_0614_026_0608_019, 1031_016_1361_017_0304_019_0308_015_1457_018_0798_013_0771_014⟩,
  ⟨10, 0787_003_0788_012_0789_013_0790_014_0792_020_0796_024_0002_002_0798_027_0799_028_0793_021_0794_022_0795_023_0797_026_0791_019, 1029_016_1334_017_0327_019_0362_015_1338_018_0989_013_0976_014⟩,
  ⟨10, 0602_003_0605_012_0606_013_0607_014_0609_020_0613_024_0002_002_0615_027_0616_028_0610_021_0611_022_0612_023_0614_026_0608_019, 1031_016_1361_017_0304_019_0308_015_1403_018_0798_013_0771_014⟩,
  ⟨10, 0003_003_0012_012_0617_013_0801_014_0020_020_0024_024_0002_002_0027_027_0028_028_0021_021_0022_022_0023_023_0026_026_0019_019, 0791_035_1028_016_1447_017_0315_019_0321_015_0751_013_0812_014⟩,
  ⟨10, 0602_003_0605_012_0606_013_0802_014_0609_020_0613_024_0002_002_0615_027_0616_028_0610_021_0611_022_0612_023_0614_026_0608_019, 0745_035_1031_016_1361_017_0304_019_0308_015_0726_013_0771_014⟩,
  ⟨10, 0787_003_0788_012_0789_013_0803_014_0792_020_0796_024_0002_002_0798_027_0799_028_0793_021_0794_022_0795_023_0797_026_0791_019, 0921_035_1029_016_1334_017_0327_019_0362_015_0861_013_0976_014⟩,
  ⟨10, 0804_003_0805_012_0806_013_0807_014_0809_020_0813_024_0002_002_0815_027_0816_028_0810_021_0811_022_0812_023_0814_026_0808_019, 0212_035_1032_016_1459_017_0159_019_0165_015_0183_013_0232_014⟩,
  ⟨10, 0817_003_0818_012_0819_013_0820_014_0822_020_0826_024_0002_002_0828_027_0829_028_0823_021_0824_022_0825_023_0827_026_0821_019, 0274_035_1027_016_1292_017_0166_019_0168_015_0258_013_0295_014⟩,
  ⟨10, 0830_003_0831_012_0832_013_0833_014_0835_020_0839_024_0002_002_0841_027_0842_028_0836_021_0837_022_0838_023_0840_026_0834_019, 0933_035_1026_016_1335_017_0338_019_0377_015_0853_013_0892_014⟩,
  ⟨10, 0773_003_0774_012_0775_013_0843_014_0778_020_0782_024_0002_002_0784_027_0785_028_0779_021_0780_022_0781_023_0783_026_0777_019, 0987_035_1030_016_1481_017_0332_019_0351_015_0880_013_0928_014⟩,
  ⟨10, 0003_003_0012_012_0617_013_0618_014_0020_020_0024_024_0002_002_0027_027_0028_028_0021_021_0022_022_0023_023_0026_026_0019_019, 1028_016_1447_017_0315_019_0321_015_0768_013_0812_014⟩,
  ⟨10, 0787_003_0788_012_0789_013_0790_014_0792_020_0796_024_0002_002_0798_027_0799_028_0793_021_0794_022_0795_023_0797_026_0791_019, 1029_016_1334_017_0327_019_0362_015_0888_013_0976_014⟩,
  ⟨10, 0787_003_0788_012_0789_013_0790_014_0792_020_0796_024_0002_002_0798_027_0799_028_0793_021_0794_022_0795_023_0797_026_0791_019, 1029_016_1334_017_0327_019_0362_015_0856_013_0976_014⟩,
  ⟨10, 0787_003_0788_012_0789_013_0790_014_0792_020_0796_024_0002_002_0798_027_0799_028_0793_021_0794_022_0795_023_0797_026_0791_019, 1029_016_1334_017_0327_019_0362_015_0855_013_0976_014⟩,
  ⟨10, 0787_003_0788_012_0789_013_0790_014_0792_020_0796_024_0002_002_0798_027_0799_028_0793_021_0794_022_0795_023_0797_026_0791_019, 1029_016_1334_017_0327_019_0362_015_0859_013_0976_014⟩,
  ⟨10, 0787_003_0788_012_0789_013_0790_014_0792_020_0796_024_0002_002_0798_027_0799_028_0793_021_0794_022_0795_023_0797_026_0791_019, 1029_016_1334_017_0327_019_0362_015_0874_013_0976_014⟩,
  ⟨10, 0787_003_0788_012_0789_013_0790_014_0792_020_0796_024_0002_002_0798_027_0799_028_0793_021_0794_022_0795_023_0797_026_0791_019, 1029_016_1334_017_0327_019_0362_015_0875_013_0976_014⟩,
  ⟨10, 0787_003_0788_012_0789_013_0790_014_0792_020_0796_024_0002_002_0798_027_0799_028_0793_021_0794_022_0795_023_0797_026_0791_019, 1029_016_1334_017_0327_019_0362_015_0881_013_0976_014⟩,
  ⟨10, 0787_003_0788_012_0789_013_0790_014_0792_020_0796_024_0002_002_0798_027_0799_028_0793_021_0794_022_0795_023_0797_026_0791_019, 1029_016_1334_017_0327_019_0362_015_0882_013_0976_014⟩,
  ⟨10, 0787_003_0788_012_0789_013_0790_014_0792_020_0796_024_0002_002_0798_027_0799_028_0793_021_0794_022_0795_023_0797_026_0791_019, 1029_016_1334_017_0327_019_0362_015_0835_013_0976_014⟩,
  ⟨10, 0787_003_0788_012_0789_013_0790_014_0792_020_0796_024_0002_002_0798_027_0799_028_0793_021_0794_022_0795_023_0797_026_0791_019, 1029_016_1334_017_0327_019_0362_015_0836_013_0976_014⟩,
  ⟨10, 0787_003_0788_012_0789_013_0790_014_0792_020_0796_024_0002_002_0798_027_0799_028_0793_021_0794_022_0795_023_0797_026_0791_019, 1029_016_1334_017_0327_019_0362_015_0838_013_0976_014⟩,
  ⟨10, 0787_003_0788_012_0789_013_0790_014_0792_020_0796_024_0002_002_0798_027_0799_028_0793_021_0794_022_0795_023_0797_026_0791_019, 1029_016_1334_017_0327_019_0362_015_0839_013_0976_014⟩]

/-- Parse states from 512 on. -/
def states8 : Array StateRow := #[
  ⟨10, 0787_003_0788_012_0789_013_0790_014_0792_020_0796_024_0002_002_0798_027_0799_028_0793_021_0794_022_0795_023_0797_026_0791_019, 1029_016_1334_017_0327_019_0362_015_0840_013_0976_014⟩,
  ⟨3, 0002_002_0708_163_0709_162, 0⟩,
  ⟨3, 0002_002_0763_163_0764_162, 0⟩,
  ⟨3, 0002_002_0698_163_0699_162, 0⟩,
  ⟨10, 0804_003_0805_012_0806_013_0844_014_0809_020_0813_024_0002_002_0815_027_0816_028_0810_021_0811_022_0812_023_0814_026_0808_019, 1032_016_1459_017_0159_019_0165_015_0237_013_0232_014⟩,
  ⟨10, 0804_003_0805_012_0806_013_0844_014_0809_020_0813_024_0002_002_0815_027_0816_028_0810_021_0811_022_0812_023_0814_026_0808_019, 1032_016_1459_017_0159_019_0165_015_0236_013_0232_014⟩,
  ⟨3, 0845_035_0002_002_0690_163_0691_164, 0⟩,
  ⟨3, 0002_002_0701_163_0702_162, 0⟩,
  ⟨10, 0804_003_0805_012_0806_013_0844_014_0809_020_0813_024_0002_002_0815_027_0816_028_0810_021_0811_022_0812_023_0814_026_0808_019, 1032_016_1459_017_0159_019_0165_015_0233_013_0232_014⟩,
  ⟨10, 0804_003_0805_012_0806_013_0844_014_0809_020_0813_024_0002_002_0815_027_0816_028_0810_021_0811_022_0812_023_0814_026_0808_019, 1032_016_1459_017_0159_019_0165_015_0239_013_0232_014⟩,
  ⟨3, 0002_002_0733_163_0734_162, 0⟩,
  ⟨3, 0002_002_0735_163_0736_162, 0⟩,
  ⟨3, 0002_002_0737_163_0738_162, 0⟩,
  ⟨3, 0002_002_0739_163_0740_162, 0⟩,
  ⟨10, 0787_003_0788_012_0789_013_0790_014_0792_020_0796_024_0002_002_0798_027_0799_028_0793_021_0794_022_0795_023_0797_026_0791_019, 1029_016_1334_017_0327_019_0362_015_0883_013_0976_014⟩,
  ⟨3, 0002_002_0757_163_0758_162, 0⟩,
  ⟨3, 0002_002_0761_163_0762_162, 0⟩,
  ⟨3, 0002_002_0767_163_0768_162, 0⟩,
  ⟨3, 0002_002_0671_163_0672_162, 0⟩,
  ⟨3, 0002_002_0682_163_0683_162, 0⟩,
  ⟨3, 0002_002_0688_163_0689_162, 0⟩,
  ⟨3, 0002_002_0706_163_0707_162, 0⟩,
  ⟨3, 0002_002_0712_163_0713_162, 0⟩,
  ⟨3, 0002_002_0714_163_0715_162, 0⟩,
  ⟨3, 0002_002_0716_163_0717_162, 0⟩,
  ⟨3, 0002_002_0722_163_0723_162, 0⟩,
  ⟨3, 0002_002_0728_163_0729_162, 0⟩,
  ⟨3, 0002_002_0663_163_0664_162, 0⟩,
  ⟨3, 0002_002_0769_163_0770_162, 0⟩,
  ⟨3, 0002_002_0771_163_0772_162, 0⟩,
  ⟨3, 0002_002_0720_163_0721_162, 0⟩,
  ⟨3, 0002_002_0528_163_0529_162, 0⟩,
  ⟨3, 0002_002_0676_163_0677_162, 0⟩,
  ⟨3, 0002_002_0678_163_0679_162, 0⟩,
  ⟨3, 0002_002_0694_163_0695_162, 0⟩,
  ⟨3, 0002_002_0540_163_0541_162, 0⟩,
  ⟨3, 0002_002_0544_163_0545_162, 0⟩,
  ⟨3, 0002_002_0710_163_0711_162, 0⟩,
  ⟨3, 0002_002_0536_163_0537_162, 0⟩,
  ⟨3, 0002_002_0755_163_0756_162, 0⟩,
  ⟨3, 0002_002_0759_163_0760_162, 0⟩,
  ⟨3, 0002_002_0765_163_0766_162, 0⟩,
  ⟨10, 0602_003_0605_012_0606_013_0607_014_0609_020_0613_024_0002_002_0615_027_0616_028_0610_021_0611_022_0612_023_0614_026_0608_019, 1031_016_1361_017_0304_019_0308_015_0731_013_0771_014⟩,
  ⟨10, 0602_003_0605_012_0606_013_0607_014_0609_020_0613_024_0002_002_0615_027_0616_028_0610_021_0611_022_0612_023_0614_026_0608_019, 1031_016_1361_017_0304_019_0308_015_0734_013_0771_014⟩,
  ⟨10, 0602_003_0605_012_0606_013_0607_014_0609_020_0613_024_0002_002_0615_027_0616_028_0610_021_0611_022_0612_023_0614_026_0608_019, 1031_016_1361_017_0304_019_0308_015_0712_013_0771_014⟩,
  ⟨10, 0602_003_0605_012_0606_013_0607_014_0609_020_0613_024_0002_002_0615_027_0616_028_0610_021_0611_022_0612_023_0614_026_0608_019, 1031_016_1361_017_0304_019_0308_015_0876_013_0771_014⟩,
  ⟨10, 0602_003_0605_012_0606_013_0607_014_0609_020_0613_024_0002_002_0615_027_0616_028_0610_021_0611_022_0612_023_0614_026_0608_019, 1031_016_1361_017_0304_019_0308_015_0713_013_0771_014⟩,
  ⟨10, 0602_003_0605_012_0606_013_0607_014_0609_020_0613_024_0002_002_0615_027_0616_028_0610_021_0611_022_0612_023_0614_026_0608_019, 1031_016_1361_017_0304_019_0308_015_0714_013_0771_014⟩,
  ⟨10, 0602_003_0605_012_0606_013_0607_014_0609_020_0613_024_0002_002_0615_027_0616_028_0610_021_0611_022_0612_023_0614_026_0608_019, 1031_016_1361_017_0304_019_0308_015_0715_013_0771_014⟩,
  ⟨10, 0602_003_0605_012_0606_013_0607_014_0609_020_0613_024_0002_002_0615_027_0616_028_0610_021_0611_022_0612_023_0614_026_0608_019, 1031_016_1361_017_0304_019_0308_015_0716_013_0771_014⟩,
  ⟨10, 0602_003_0605_012_0606_013_0607_014_0609_020_0613_024_0002_002_0615_027_0616_028_0610_021_0611_022_0612_023_0614_026_0608_019, 1031_016_1361_017_0304_019_0308_015_0717_013_0771_014⟩,
  ⟨10, 0602_003_0605_012_0606_013_0607_014_0609_020_0613_024_0002_002_0615_027_0616_028_0610_021_0611_022_0612_023_0614_026_0608_019, 1031_016_1361_017_0304_019_0308_015_0718_013_0771_014⟩,
  ⟨10, 0602_003_0605_012_0606_013_0607_014_0609_020_0613_024_0002_002_0615_027_0616_028_0610_021_0611_022_0612_023_0614_026_0608_019, 1031_016_1361_017_0304_019_0308_015_0719_013_0771_014⟩,
  ⟨10, 0602_003_0605_012_0606_013_0607_014_0609_020_0613_024_0002_002_0615_027_0616_028_0610_021_0611_022_0612_023_0614_026_0608_019, 1031_016_1361_017_0304_019_0308_015_0720_013_0771_014⟩,
  ⟨10, 0602_003_0605_012_0606_013_0607_014_0609_020_0613_024_0002_002_0615_027_0616_028_0610_021_0611_022_0612_023_0614_026_0608_019, 1031_016_1361_017_0304_019_0308_015_0721_013_0771_014⟩,
  ⟨10, 0602_003_0605_012_0606_013_0607_014_0609_020_0613_024_0002_002_0615_027_0616_028_0610_021_0611_022_0612_023_0614_026_0608_019, 1031_016_1361_017_0304_019_0308_015_0722_013_0771_014⟩,
  ⟨10, 0602_003_0605_012_0606_013_0607_014_0609_020_0613_024_0002_002_0615_027_0616_028_0610_021_0611_022_0612_023_0614_026_0608_019, 1031_016_1361_017_0304_019_0308_015_0723_013_0771_014⟩,
  ⟨10, 0602_003_0605_012_0606_013_0607_014_0609_020_0613_024_0002_002_0615_027_0616_028_0610_021_0611_022_0612_023_0614_026_0608_019, 1031_016_1361_017_0304_019_0308_015_0724_013_0771_014⟩,
  ⟨10, 0602_003_0605_012_0606_013_0607_014_0609_020_0613_024_0002_002_0615_027_0616_028_0610_021_0611_022_0612_023_0614_026_0608_019, 1031_016_1361_017_0304_019_0308_015_0728_013_0771_014⟩,
  ⟨10, 0602_003_0605_012_0606_013_0607_014_0609_020_0613_024_0002_002_0615_027_0616_028_0610_021_0611_022_0612_023_0614_026_0608_019, 1031_016_1361_017_0304_019_0308_015_0729_013_0771_014⟩,
  ⟨10, 0602_003_0605_012_0606_013_0607_014_0609_020_0613_024_0002_002_0615_027_0616_028_0610_021_0611_022_0612_023_0614_026_0608_019, 1031_016_1361_017_0304_019_0308_015_0730_013_0771_014⟩,
  ⟨10, 0773_003_0774_012_0775_013_0776_014_0778_020_0782_024_0002_002_0784_027_0785_028_0779_021_0780_022_0781_023_0783_026_0777_019, 1030_016_1481_017_0332_019_0351_015_0832_013_0928_014⟩,
  ⟨10, 0773_003_0774_012_0775_013_0776_014_0778_020_0782_024_0002_002_0784_027_0785_028_0779_021_0780_022_0781_023_0783_026_0777_019, 1030_016_1481_017_0332_019_0351_015_0833_013_0928_014⟩,
  ⟨10, 0773_003_0774_012_0775_013_0776_014_0778_020_0782_024_0002_002_0784_027_0785_028_0779_021_0780_022_0781_023_0783_026_0777_019, 1030_016_1481_017_0332_019_0351_015_0834_013_0928_014⟩]

/-- Parse states from 576 on. -/
def states9 : Array StateRow := #[
  ⟨10, 0773_003_0774_012_0775_013_0776_014_0778_020_0782_024_0002_002_0784_027_0785_028_0779_021_0780_022_0781_023_0783_026_0777_019, 1030_016_1481_017_0332_019_0351_015_1000_013_0928_014⟩,
  ⟨10, 0773_003_0774_012_0775_013_0776_014_0778_020_0782_024_0002_002_0784_027_0785_028_0779_021_0780_022_0781_023_0783_026_0777_019, 1030_016_1481_017_0332_019_0351_015_0862_013_0928_014⟩,
  ⟨10, 0773_003_0774_012_0775_013_0776_014_0778_020_0782_024_0002_002_0784_027_0785_028_0779_021_0780_022_0781_023_0783_026_0777_019, 1030_016_1481_017_0332_019_0351_015_0863_013_0928_014⟩,
  ⟨10, 0773_003_0774_012_0775_013_0776_014_0778_020_0782_024_0002_002_0784_027_0785_028_0779_021_0780_022_0781_023_0783_026_0777_019, 1030_016_1481_017_0332_019_0351_015_0864_013_0928_014⟩,
  ⟨10, 0773_003_0774_012_0775_013_0776_014_0778_020_0782_024_0002_002_0784_027_0785_028_0779_021_0780_022_0781_023_0783_026_0777_019, 1030_016_1481_017_0332_019_0351_015_0865_013_0928_014⟩,
  ⟨10, 0773_003_0774_012_0775_013_0776_014_0778_020_0782_024_0002_002_0784_027_0785_028_0779_021_0780_022_0781_023_0783_026_0777_019, 1030_016_1481_017_0332_019_0351_015_0866_013_0928_014⟩,
  ⟨10, 0773_003_0774_012_0775_013_0776_014_0778_020_0782_024_0002_002_0784_027_0785_028_0779_021_0780_022_0781_023_0783_026_0777_019, 1030_016_1481_017_0332_019_0351_015_0867_013_0928_014⟩,
  ⟨10, 0773_003_0774_012_0775_013_0776_014_0778_020_0782_024_0002_002_0784_027_0785_028_0779_021_0780_022_0781_023_0783_026_0777_019, 1030_016_1481_017_0332_019_0351_015_0868_013_0928_014⟩,
  ⟨10, 0773_003_0774_012_0775_013_0776_014_0778_020_0782_024_0002_002_0784_027_0785_028_0779_021_0780_022_0781_023_0783_026_0777_019, 1030_016_1481_017_0332_019_0351_015_0869_013_0928_014⟩,
  ⟨10, 0773_003_0774_012_0775_013_0776_014_0778_020_0782_024_0002_002_0784_027_0785_028_0779_021_0780_022_0781_023_0783_026_0777_019, 1030_016_1481_017_0332_019_0351_015_0828_013_0928_014⟩,
  ⟨10, 0773_003_0774_012_0775_013_0776_014_0778_020_0782_024_0002_002_0784_027_0785_028_0779_021_0780_022_0781_023_0783_026_0777_019, 1030_016_1481_017_0332_019_0351_015_0871_013_0928_014⟩,
  ⟨10, 0773_003_0774_012_0775_013_0776_014_0778_020_0782_024_0002_002_0784_027_0785_028_0779_021_0780_022_0781_023_0783_026_0777_019, 1030_016_1481_017_0332_019_0351_015_0872_013_0928_014⟩,
  ⟨10, 0773_003_0774_012_0775_013_0776_014_0778_020_0782_024_0002_002_0784_027_0785_028_0779_021_0780_022_0781_023_0783_026_0777_019, 1030_016_1481_017_0332_019_0351_015_0873_013_0928_014⟩,
  ⟨10, 0773_003_0774_012_0775_013_0776_014_0778_020_0782_024_0002_002_0784_027_0785_028_0779_021_0780_022_0781_023_0783_026_0777_019, 1030_016_1481_017_0332_019_0351_015_0878_013_0928_014⟩,
  ⟨10, 0773_003_0774_012_0775_013_0776_014_0778_020_0782_024_0002_002_0784_027_0785_028_0779_021_0780_022_0781_023_0783_026_0777_019, 1030_016_1481_017_0332_019_0351_015_0879_013_0928_014⟩,
  ⟨10, 0773_003_0774_012_0775_013_0776_014_0778_020_0782_024_0002_002_0784_027_0785_028_0779_021_0780_022_0781_023_0783_026_0777_019, 1030_016_1481_017_0332_019_0351_015_0870_013_0928_014⟩,
  ⟨10, 0830_003_0831_012_0832_013_0846_014_0835_020_0839_024_0002_002_0841_027_0842_028_0836_021_0837_022_0838_023_0840_026_0834_019, 1026_016_1335_017_0338_019_0377_015_0849_013_0892_014⟩,
  ⟨10, 0830_003_0831_012_0832_013_0846_014_0835_020_0839_024_0002_002_0841_027_0842_028_0836_021_0837_022_0838_023_0840_026_0834_019, 1026_016_1335_017_0338_019_0377_015_0854_013_0892_014⟩,
  ⟨10, 0830_003_0831_012_0832_013_0846_014_0835_020_0839_024_0002_002_0841_027_0842_028_0836_021_0837_022_0838_023_0840_026_0834_019, 1026_016_1335_017_0338_019_0377_015_0860_013_0892_014⟩,
  ⟨10, 0830_003_0831_012_0832_013_0846_014_0835_020_0839_024_0002_002_0841_027_0842_028_0836_021_0837_022_0838_023_0840_026_0834_019, 1026_016_1335_017_0338_019_0377_015_0829_013_0892_014⟩,
  ⟨10, 0830_003_0831_012_0832_013_0846_014_0835_020_0839_024_0002_002_0841_027_0842_028_0836_021_0837_022_0838_023_0840_026_0834_019, 1026_016_1335_017_0338_019_0377_015_0830_013_0892_014⟩,
  ⟨10, 0830_003_0831_012_0832_013_0846_014_0835_020_0839_024_0002_002_0841_027_0842_028_0836_021_0837_022_0838_023_0840_026_0834_019, 1026_016_1335_017_0338_019_0377_015_0831_013_0892_014⟩,
  ⟨10, 0830_003_0831_012_0832_013_0846_014_0835_020_0839_024_0002_002_0841_027_0842_028_0836_021_0837_022_0838_023_0840_026_0834_019, 1026_016_1335_017_0338_019_0377_015_0837_013_0892_014⟩,
  ⟨10, 0830_003_0831_012_0832_013_0846_014_0835_020_0839_024_0002_002_0841_027_0842_028_0836_021_0837_022_0838_023_0840_026_0834_019, 1026_016_1335_017_0338_019_0377_015_0841_013_0892_014⟩,
  ⟨10, 0830_003_0831_012_0832_013_0846_014_0835_020_0839_024_0002_002_0841_027_0842_028_0836_021_0837_022_0838_023_0840_026_0834_019, 1026_016_1335_017_0338_019_0377_015_0842_013_0892_014⟩,
  ⟨10, 0830_003_0831_012_0832_013_0846_014_0835_020_0839_024_0002_002_0841_027_0842_028_0836_021_0837_022_0838_023_0840_026_0834_019, 1026_016_1335_017_0338_019_0377_015_0843_013_0892_014⟩,
  ⟨10, 0830_003_0831_012_0832_013_0846_014_0835_020_0839_024_0002_002_0841_027_0842_028_0836_021_0837_022_0838_023_0840_026_0834_019, 1026_016_1335_017_0338_019_0377_015_0844_013_0892_014⟩,
  ⟨10, 0830_003_0831_012_0832_013_0846_014_0835_020_0839_024_0002_002_0841_027_0842_028_0836_021_0837_022_0838_023_0840_026_0834_019, 1026_016_1335_017_0338_019_0377_015_0845_013_0892_014⟩,
  ⟨10, 0830_003_0831_012_0832_013_0846_014_0835_020_0839_024_0002_002_0841_027_0842_028_0836_021_0837_022_0838_023_0840_026_0834_019, 1026_016_1335_017_0338_019_0377_015_0846_013_0892_014⟩,
  ⟨10, 0830_003_0831_012_0832_013_0846_014_0835_020_0839_024_0002_002_0841_027_0842_028_0836_021_0837_022_0838_023_0840_026_0834_019, 1026_016_1335_017_0338_019_0377_015_0847_013_0892_014⟩,
  ⟨10, 0830_003_0831_012_0832_013_0846_014_0835_020_0839_024_0002_002_0841_027_0842_028_0836_021_0837_022_0838_023_0840_026_0834_019, 1026_016_1335_017_0338_019_0377_015_0848_013_0892_014⟩,
  ⟨10, 0830_003_0831_012_0832_013_0846_014_0835_020_0839_024_0002_002_0841_027_0842_028_0836_021_0837_022_0838_023_0840_026_0834_019, 1026_016_1335_017_0338_019_0377_015_0851_013_0892_014⟩,
  ⟨10, 0830_003_0831_012_0832_013_0846_014_0835_020_0839_024_0002_002_0841_027_0842_028_0836_021_0837_022_0838_023_0840_026_0834_019, 1026_016_1335_017_0338_019_0377_015_0852_013_0892_014⟩,
  ⟨10, 0830_003_0831_012_0832_013_0846_014_0835_020_0839_024_0002_002_0841_027_0842_028_0836_021_0837_022_0838_023_0840_026_0834_019, 1026_016_1335_017_0338_019_0377_015_0858_013_0892_014⟩,
  ⟨10, 0787_003_0788_012_0789_013_0790_014_0792_020_0796_024_0002_002_0798_027_0799_028_0793_021_0794_022_0795_023_0797_026_0791_019, 1029_016_1334_017_0327_019_0362_015_1008_013_0976_014⟩,
  ⟨10, 0804_003_0805_012_0806_013_0844_014_0809_020_0813_024_0002_002_0815_027_0816_028_0810_021_0811_022_0812_023_0814_026_0808_019, 1032_016_1459_017_0159_019_0165_015_0187_013_0232_014⟩,
  ⟨10, 0804_003_0805_012_0806_013_0844_014_0809_020_0813_024_0002_002_0815_027_0816_028_0810_021_0811_022_0812_023_0814_026_0808_019, 1032_016_1459_017_0159_019_0165_015_0188_013_0232_014⟩,
  ⟨10, 0804_003_0805_012_0806_013_0844_014_0809_020_0813_024_0002_002_0815_027_0816_028_0810_021_0811_022_0812_023_0814_026_0808_019, 1032_016_1459_017_0159_019_0165_015_0189_013_0232_014⟩,
  ⟨10, 0003_003_0012_012_0617_013_0618_014_0020_020_0024_024_0002_002_0027_027_0028_028_0021_021_0022_022_0023_023_0026_026_0019_019, 1028_016_1447_017_0315_019_0321_015_0911_013_0812_014⟩,
  ⟨10, 0003_003_0012_012_0617_013_0618_014_0020_020_0024_024_0002_002_0027_027_0028_028_0021_021_0022_022_0023_023_0026_026_0019_019, 1028_016_1447_017_0315_019_0321_015_0913_013_0812_014⟩,
  ⟨10, 0804_003_0805_012_0806_013_0844_014_0809_020_0813_024_0002_002_0815_027_0816_028_0810_021_0811_022_0812_023_0814_026_0808_019, 1032_016_1459_017_0159_019_0165_015_0177_013_0232_014⟩,
  ⟨10, 0804_003_0805_012_0806_013_0844_014_0809_020_0813_024_0002_002_0815_027_0816_028_0810_021_0811_022_0812_023_0814_026_0808_019, 1032_016_1459_017_0159_019_0165_015_0192_013_0232_014⟩,
  ⟨10, 0804_003_0805_012_0806_013_0844_014_0809_020_0813_024_0002_002_0815_027_0816_028_0810_021_0811_022_0812_023_0814_026_0808_019, 1032_016_1459_017_0159_019_0165_015_0193_013_0232_014⟩,
  ⟨10, 0804_003_0805_012_0806_013_0844_014_0809_020_0813_024_0002_002_0815_027_0816_028_0810_021_0811_022_0812_023_0814_026_0808_019, 1032_016_1459_017_0159_019_0165_015_0194_013_0232_014⟩,
  ⟨10, 0804_003_0805_012_0806_013_0844_014_0809_020_0813_024_0002_002_0815_027_0816_028_0810_021_0811_022_0812_023_0814_026_0808_019, 1032_016_1459_017_0159_019_0165_015_0195_013_0232_014⟩,
  ⟨10, 0804_003_0805_012_0806_013_0844_014_0809_020_0813_024_0002_002_0815_027_0816_028_0810_021_0811_022_0812_023_0814_026_0808_019, 1032_016_1459_017_0159_019_0165_015_0196_013_0232_014⟩,
  ⟨10, 0804_003_0805_012_0806_013_0844_014_0809_020_0813_024_0002_002_0815_027_0816_028_0810_021_0811_022_0812_023_0814_026_0808_019, 1032_016_1459_017_0159_019_0165_015_0197_013_0232_014⟩,
  ⟨10, 0804_003_0805_012_0806_013_0844_014_0809_020_0813_024_0002_002_0815_027_0816_028_0810_021_0811_022_0812_023_0814_026_0808_019, 1032_016_1459_017_0159_019_0165_015_0191_013_0232_014⟩,
  ⟨10, 0804_003_0805_012_0806_013_0844_014_0809_020_0813_024_0002_002_0815_027_0816_028_0810_021_0811_022_0812_023_0814_026_0808_019, 1032_016_1459_017_0159_019_0165_015_0178_013_0232_014⟩,
  ⟨10, 0804_003_0805_012_0806_013_0844_014_0809_020_0813_024_0002_002_0815_027_0816_028_0810_021_0811_022_0812_023_0814_026_0808_019, 1032_016_1459_017_0159_019_0165_015_0184_013_0232_014⟩,
  ⟨10, 0804_003_0805_012_0806_013_0844_014_0809_020_0813_024_0002_002_0815_027_0816_028_0810_021_0811_022_0812_023_0814_026_0808_019, 1032_016_1459_017_0159_019_0165_015_0190_013_0232_014⟩,
  ⟨10, 0804_003_0805_012_0806_013_0844_014_0809_020_0813_024_0002_002_0815_027_0816_028_0810_021_0811_022_0812_023_0814_026_0808_019, 1032_016_1459_017_0159_019_0165_015_0179_013_0232_014⟩,
  ⟨10, 0830_003_0831_012_0832_013_0846_014_0835_020_0839_024_0002_002_0841_027_0842_028_0836_021_0837_022_0838_023_0840_026_0834_019, 1026_016_1335_017_0338_019_0377_015_1011_013_0892_014⟩,
  ⟨10, 0804_003_0805_012_0806_013_0844_014_0809_020_0813_024_0002_002_0815_027_0816_028_0810_021_0811_022_0812_023_0814_026_0808_019, 1032_016_1459_017_0159_019_0165_015_0180_013_0232_014⟩,
  ⟨10, 0804_003_0805_012_0806_013_0844_014_0809_020_0813_024_0002_002_0815_027_0816_028_0810_021_0811_022_0812_023_0814_026_0808_019, 1032_016_1459_017_0159_019_0165_015_0182_013_0232_014⟩,
  ⟨10, 0804_003_0805_012_0806_013_0844_014_0809_020_0813_024_0002_002_0815_027_0816_028_0810_021_0811_022_0812_023_0814_026_0808_019, 1032_016_1459_017_0159_019_0165_015_0186_013_0232_014⟩,
  ⟨10, 0817_003_0818_012_0819_013_0847_014_0822_020_0826_024_0002_002_0828_027_0829_028_0823_021_0824_022_0825_023_0827_026_0821_019, 1027_016_1292_017_0166_019_0168_015_0242_013_0295_014⟩,
  ⟨10, 0817_003_0818_012_0819_013_0847_014_0822_020_0826_024_0002_002_0828_027_0829_028_0823_021_0824_022_0825_023_0827_026_0821_019, 1027_016_1292_017_0166_019_0168_015_0243_013_0295_014⟩,
  ⟨10, 0817_003_0818_012_0819_013_0847_014_0822_020_0826_024_0002_002_0828_027_0829_028_0823_021_0824_022_0825_023_0827_026_0821_019, 1027_016_1292_017_0166_019_0168_015_0244_013_0295_014⟩,
  ⟨10, 0817_003_0818_012_0819_013_0847_014_0822_020_0826_024_0002_002_0828_027_0829_028_0823_021_0824_022_0825_023_0827_026_0821_019, 1027_016_1292_017_0166_019_0168_015_0240_013_0295_014⟩,
  ⟨10, 0817_003_0818_012_0819_013_0847_014_0822_020_0826_024_0002_002_0828_027_0829_028_0823_021_0824_022_0825_023_0827_026_0821_019, 1027_016_1292_017_0166_019_0168_015_0245_013_0295_014⟩,
  ⟨10, 0817_003_0818_012_0819_013_0847_014_0822_020_0826_024_0002_002_0828_027_0829_028_0823_021_0824_022_0825_023_0827_026_0821_019, 1027_016_1292_017_0166_019_0168_015_0246_013_0295_014⟩,
  ⟨10, 0817_003_0818_012_0819_013_0847_014_0822_020_0826_024_0002_002_0828_027_0829_028_0823_021_0824_022_0825_023_0827_026_0821_019, 1027_016_1292_017_0166_019_0168_015_0247_013_0295_014⟩,
  ⟨10, 0817_003_0818_012_0819_013_0847_014_0822_020_0826_024_0002_002_0828_027_0829_028_0823_021_0824_022_0825_023_0827_026_0821_019, 1027_016_1292_017_0166_019_0168_015_0248_013_0295_014⟩]

/-- Parse states from 640 on. -/
def states10 : Array StateRow := #[
  ⟨10, 0817_003_0818_012_0819_013_0847_014_0822_020_0826_024_0002_002_0828_027_0829_028_0823_021_0824_022_0825_023_0827_026_0821_019, 1027_016_1292_017_0166_019_0168_015_0249_013_0295_014⟩,
  ⟨10, 0817_003_0818_012_0819_013_0847_014_0822_020_0826_024_0002_002_0828_027_0829_028_0823_021_0824_022_0825_023_0827_026_0821_019, 1027_016_1292_017_0166_019_0168_015_0250_013_0295_014⟩,
  ⟨10, 0817_003_0818_012_0819_013_0847_014_0822_020_0826_024_0002_002_0828_027_0829_028_0823_021_0824_022_0825_023_0827_026_0821_019, 1027_016_1292_017_0166_019_0168_015_0251_013_0295_014⟩,
  ⟨10, 0817_003_0818_012_0819_013_0847_014_0822_020_0826_024_0002_002_0828_027_0829_028_0823_021_0824_022_0825_023_0827_026_0821_019, 1027_016_1292_017_0166_019_0168_015_0252_013_0295_014⟩,
  ⟨10, 0817_003_0818_012_0819_013_0847_014_0822_020_0826_024_0002_002_0828_027_0829_028_0823_021_0824_022_0825_023_0827_026_0821_019, 1027_016_1292_017_0166_019_0168_015_0253_013_0295_014⟩,
  ⟨10, 0817_003_0818_012_0819_013_0847_014_0822_020_0826_024_0002_002_0828_027_0829_028_0823_021_0824_022_0825_023_0827_026_0821_019, 1027_016_1292_017_0166_019_0168_015_0254_013_0295_014⟩,
  ⟨10, 0817_003_0818_012_0819_013_0847_014_0822_020_0826_024_0002_002_0828_027_0829_028_0823_021_0824_022_0825_023_0827_026_0821_019, 1027_016_1292_017_0166_019_0168_015_0255_013_0295_014⟩,
  ⟨10, 0003_003_0012_012_0617_013_0618_014_0020_020_0024_024_0002_002_0027_027_0028_028_0021_021_0022_022_0023_023_0026_026_0019_019, 1028_016_1447_017_0315_019_0321_015_0767_013_0812_014⟩,
  ⟨10, 0817_003_0818_012_0819_013_0847_014_0822_020_0826_024_0002_002_0828_027_0829_028_0823_021_0824_022_0825_023_0827_026_0821_019, 1027_016_1292_017_0166_019_0168_015_0256_013_0295_014⟩,
  ⟨10, 0817_003_0818_012_0819_013_0847_014_0822_020_0826_024_0002_002_0828_027_0829_028_0823_021_0824_022_0825_023_0827_026_0821_019, 1027_016_1292_017_0166_019_0168_015_0257_013_0295_014⟩,
  ⟨10, 0602_003_0605_012_0606_013_0607_014_0609_020_0613_024_0002_002_0615_027_0616_028_0610_021_0611_022_0612_023_0614_026_0608_019, 1031_016_1361_017_0304_019_0308_015_1019_013_0771_014⟩,
  ⟨10, 0602_003_0605_012_0606_013_0607_014_0609_020_0613_024_0002_002_0615_027_0616_028_0610_021_0611_022_0612_023_0614_026_0608_019, 1031_016_1361_017_0304_019_0308_015_1015_013_0771_014⟩,
  ⟨10, 0804_003_0805_012_0806_013_0844_014_0809_020_0813_024_0002_002_0815_027_0816_028_0810_021_0811_022_0812_023_0814_026_0808_019, 1032_016_1459_017_0159_019_0165_015_0241_013_0232_014⟩,
  ⟨10, 0817_003_0818_012_0819_013_0847_014_0822_020_0826_024_0002_002_0828_027_0829_028_0823_021_0824_022_0825_023_0827_026_0821_019, 1027_016_1292_017_0166_019_0168_015_0260_013_0295_014⟩,
  ⟨10, 0830_003_0831_012_0832_013_0846_014_0835_020_0839_024_0002_002_0841_027_0842_028_0836_021_0837_022_0838_023_0840_026_0834_019, 1026_016_1335_017_0338_019_0377_015_1003_013_0892_014⟩,
  ⟨10, 0602_003_0605_012_0606_013_0607_014_0609_020_0613_024_0002_002_0615_027_0616_028_0610_021_0611_022_0612_023_0614_026_0608_019, 1031_016_1361_017_0304_019_0308_015_0990_013_0771_014⟩,
  ⟨10, 0817_003_0818_012_0819_013_0847_014_0822_020_0826_024_0002_002_0828_027_0829_028_0823_021_0824_022_0825_023_0827_026_0821_019, 1027_016_1292_017_0166_019_0168_015_0301_013_0295_014⟩,
  ⟨10, 0003_003_0012_012_0617_013_0618_014_0020_020_0024_024_0002_002_0027_027_0028_028_0021_021_0022_022_0023_023_0026_026_0019_019, 1028_016_1447_017_0315_019_0321_015_0927_013_0812_014⟩,
  ⟨10, 0003_003_0012_012_0617_013_0618_014_0020_020_0024_024_0002_002_0027_027_0028_028_0021_021_0022_022_0023_023_0026_026_0019_019, 1028_016_1447_017_0315_019_0321_015_0742_013_0812_014⟩,
  ⟨10, 0003_003_0012_012_0617_013_0618_014_0020_020_0024_024_0002_002_0027_027_0028_028_0021_021_0022_022_0023_023_0026_026_0019_019, 1028_016_1447_017_0315_019_0321_015_0735_013_0812_014⟩,
  ⟨10, 0602_003_0605_012_0606_013_0607_014_0609_020_0613_024_0002_002_0615_027_0616_028_0610_021_0611_022_0612_023_0614_026_0608_019, 1031_016_1361_017_0304_019_0308_015_1017_013_0771_014⟩,
  ⟨10, 0003_003_0012_012_0617_013_0618_014_0020_020_0024_024_0002_002_0027_027_0028_028_0021_021_0022_022_0023_023_0026_026_0019_019, 1028_016_1447_017_0315_019_0321_015_0769_013_0812_014⟩,
  ⟨10, 0003_003_0012_012_0617_013_0618_014_0020_020_0024_024_0002_002_0027_027_0028_028_0021_021_0022_022_0023_023_0026_026_0019_019, 1028_016_1447_017_0315_019_0321_015_0778_013_0812_014⟩,
  ⟨10, 0003_003_0012_012_0617_013_0618_014_0020_020_0024_024_0002_002_0027_027_0028_028_0021_021_0022_022_0023_023_0026_026_0019_019, 1028_016_1447_017_0315_019_0321_015_0779_013_0812_014⟩,
  ⟨10, 0817_003_0818_012_0819_013_0847_014_0822_020_0826_024_0002_002_0828_027_0829_028_0823_021_0824_022_0825_023_0827_026_0821_019, 1027_016_1292_017_0166_019_0168_015_0297_013_0295_014⟩,
  ⟨10, 0602_003_0605_012_0606_013_0607_014_0609_020_0613_024_0002_002_0615_027_0616_028_0610_021_0611_022_0612_023_0614_026_0608_019, 1031_016_1361_017_0304_019_0308_015_1012_013_0771_014⟩,
  ⟨10, 0817_003_0818_012_0819_013_0847_014_0822_020_0826_024_0002_002_0828_027_0829_028_0823_021_0824_022_0825_023_0827_026_0821_019, 1027_016_1292_017_0166_019_0168_015_0299_013_0295_014⟩,
  ⟨10, 0602_003_0605_012_0606_013_0607_014_0609_020_0613_024_0002_002_0615_027_0616_028_0610_021_0611_022_0612_023_0614_026_0608_019, 1031_016_1361_017_0304_019_0308_015_1010_013_0771_014⟩,
  ⟨10, 0003_003_0012_012_0617_013_0618_014_0020_020_0024_024_0002_002_0027_027_0028_028_0021_021_0022_022_0023_023_0026_026_0019_019, 1028_016_1447_017_0315_019_0321_015_0781_013_0812_014⟩,
  ⟨10, 0003_003_0012_012_0617_013_0618_014_0020_020_0024_024_0002_002_0027_027_0028_028_0021_021_0022_022_0023_023_0026_026_0019_019, 1028_016_1447_017_0315_019_0321_015_0782_013_0812_014⟩,
  ⟨10, 0003_003_0012_012_0617_013_0618_014_0020_020_0024_024_0002_002_0027_027_0028_028_0021_021_0022_022_0023_023_0026_026_0019_019, 1028_016_1447_017_0315_019_0321_015_0783_013_0812_014⟩,
  ⟨10, 0003_003_0012_012_0617_013_0618_014_0020_020_0024_024_0002_002_0027_027_0028_028_0021_021_0022_022_0023_023_0026_026_0019_019, 1028_016_1447_017_0315_019_0321_015_0784_013_0812_014⟩,
  ⟨10, 0003_003_0012_012_0617_013_0618_014_0020_020_0024_024_0002_002_0027_027_0028_028_0021_021_0022_022_0023_023_0026_026_0019_019, 1028_016_1447_017_0315_019_0321_015_0785_013_0812_014⟩,
  ⟨10, 0003_003_0012_012_0617_013_0618_014_0020_020_0024_024_0002_002_0027_027_0028_028_0021_021_0022_022_0023_023_0026_026_0019_019, 1028_016_1447_017_0315_019_0321_015_0736_013_0812_014⟩,
  ⟨10, 0817_003_0818_012_0819_013_0847_014_0822_020_0826_024_0002_002_0828_027_0829_028_0823_021_0824_022_0825_023_0827_026_0821_019, 1027_016_1292_017_0166_019_0168_015_0300_013_0295_014⟩,
  ⟨10, 0817_003_0818_012_0819_013_0847_014_0822_020_0826_024_0002_002_0828_027_0829_028_0823_021_0824_022_0825_023_0827_026_0821_019, 1027_016_1292_017_0166_019_0168_015_0298_013_0295_014⟩,
  ⟨10, 0003_003_0012_012_0617_013_0618_014_0020_020_0024_024_0002_002_0027_027_0028_028_0021_021_0022_022_0023_023_0026_026_0019_019, 1028_016_1447_017_0315_019_0321_015_0786_013_0812_014⟩,
  ⟨10, 0003_003_0012_012_0617_013_0618_014_0020_020_0024_024_0002_002_0027_027_0028_028_0021_021_0022_022_0023_023_0026_026_0019_019, 1028_016_1447_017_0315_019_0321_015_0740_013_0812_014⟩,
  ⟨10, 0003_003_0012_012_0617_013_0618_014_0020_020_0024_024_0002_002_0027_027_0028_028_0021_021_0022_022_0023_023_0026_026_0019_019, 1028_016_1447_017_0315_019_0321_015_0743_013_0812_014⟩,
  ⟨10, 0003_003_0012_012_0617_013_0618_014_0020_020_0024_024_0002_002_0027_027_0028_028_0021_021_0022_022_0023_023_0026_026_0019_019, 1028_016_1447_017_0315_019_0321_015_0765_013_0812_014⟩,
  ⟨10, 0003_003_0012_012_0617_013_0618_014_0020_020_0024_024_0002_002_0027_027_0028_028_0021_021_0022_022_0023_023_0026_026_0019_019, 1028_016_1447_017_0315_019_0321_015_0966_013_0812_014⟩,
  ⟨10, 0003_003_0012_012_0617_013_0618_014_0020_020_0024_024_0002_002_0027_027_0028_028_0021_021_0022_022_0023_023_0026_026_0019_019, 1028_016_1447_017_0315_019_0321_015_0968_013_0812_014⟩,
  ⟨10, 0003_003_0012_012_0617_013_0618_014_0020_020_0024_024_0002_002_0027_027_0028_028_0021_021_0022_022_0023_023_0026_026_0019_019, 1028_016_1447_017_0315_019_0321_015_0766_013_0812_014⟩,
  ⟨10, 0602_003_0605_012_0606_013_0607_014_0609_020_0613_024_0002_002_0615_027_0616_028_0610_021_0611_022_0612_023_0614_026_0608_019, 1031_016_1361_017_0304_019_0308_015_1021_013_0771_014⟩,
  ⟨10, 0787_003_0788_012_0789_013_0790_014_0792_020_0796_024_0002_002_0798_027_0799_028_0793_021_0794_022_0795_023_0797_026_0791_019, 1029_016_1334_017_0327_019_0362_015_0885_013_0976_014⟩,
  ⟨10, 0787_003_0788_012_0789_013_0790_014_0792_020_0796_024_0002_002_0798_027_0799_028_0793_021_0794_022_0795_023_0797_026_0791_019, 1029_016_1334_017_0327_019_0362_015_0886_013_0976_014⟩,
  ⟨10, 0787_003_0788_012_0789_013_0790_014_0792_020_0796_024_0002_002_0798_027_0799_028_0793_021_0794_022_0795_023_0797_026_0791_019, 1029_016_1334_017_0327_019_0362_015_0887_013_0976_014⟩,
  ⟨3, 0002_002_0718_163_0719_162, 0⟩,
  ⟨3, 0002_002_0686_163_0687_162, 0⟩,
  ⟨3, 0002_002_0704_163_0705_162, 0⟩,
  ⟨3, 0002_002_0704_163_0705_162, 0⟩,
  ⟨10, 0602_003_0605_012_0606_013_0607_014_0609_020_0613_024_0002_002_0615_027_0616_028_0610_021_0611_022_0612_023_0614_026_0608_019, 1031_016_1361_017_0304_019_0308_015_1014_013_0771_014⟩,
  ⟨3, 0002_002_0724_163_0725_162, 0⟩,
  ⟨3, 0002_002_0724_163_0725_162, 0⟩,
  ⟨3, 0002_002_0674_163_0675_162, 0⟩,
  ⟨3, 0002_002_0674_163_0675_162, 0⟩,
  ⟨10, 0602_003_0605_012_0606_013_0607_014_0609_020_0613_024_0002_002_0615_027_0616_028_0610_021_0611_022_0612_023_0614_026_0608_019, 1031_016_1361_017_0304_019_0308_015_1020_013_0771_014⟩,
  ⟨10, 0602_003_0605_012_0606_013_0607_014_0609_020_0613_024_0002_002_0615_027_0616_028_0610_021_0611_022_0612_023_0614_026_0608_019, 1031_016_1361_017_0304_019_0308_015_1016_013_0771_014⟩,
  ⟨3, 0002_002_0696_163_0697_162, 0⟩,
  ⟨10, 0602_003_0605_012_0606_013_0607_014_0609_020_0613_024_0002_002_0615_027_0616_028_0610_021_0611_022_0612_023_0614_026_0608_019, 1031_016_1361_017_0304_019_0308_015_1022_013_0771_014⟩,
  ⟨10, 0830_003_0831_012_0832_013_0846_014_0835_020_0839_024_0002_002_0841_027_0842_028_0836_021_0837_022_0838_023_0840_026_0834_019, 1026_016_1335_017_0338_019_0377_015_0993_013_0892_014⟩,
  ⟨10, 0602_003_0605_012_0606_013_0607_014_0609_020_0613_024_0002_002_0615_027_0616_028_0610_021_0611_022_0612_023_0614_026_0608_019, 1031_016_1361_017_0304_019_0308_015_1018_013_0771_014⟩,
  ⟨3, 0002_002_0669_163_0670_162, 0⟩,
  ⟨3, 0002_002_0731_163_0732_162, 0⟩]

/-- Parse states from 704 on. -/
def states11 : Array StateRow := #[
  ⟨3, 0002_002_0680_163_0681_162, 0⟩,
  ⟨3, 0002_002_0684_163_0685_162, 0⟩,
  ⟨3, 0002_002_0665_163_0666_162, 0⟩,
  ⟨3, 0002_002_0669_163_0670_162, 0⟩,
  ⟨10, 0787_003_0788_012_0789_013_0790_014_0792_020_0796_024_0002_002_0798_027_0799_028_0793_021_0794_022_0795_023_0797_026_0791_019, 1029_016_1334_017_0327_019_0362_015_0877_013_0976_014⟩,
  ⟨17, 0002_002_0848_060_0441_166_0440_165, 0709_026⟩,
  ⟨17, 0002_002_0849_060_0447_166_0446_165, 0709_026⟩,
  ⟨17, 0002_002_0849_060_0444_166_0443_165, 0710_026⟩,
  ⟨8, 0850_012_0002_002_0851_023_0485_166_0484_167, 0738_027⟩,
  ⟨8, 0850_012_0855_065_0856_066_0002_002_0852_063_0853_064_0854_021_0851_023_0449_169_0448_168, 0738_027⟩,
  ⟨8, 0850_012_0856_066_0002_002_0851_023_0449_166_0448_170, 0738_027⟩,
  ⟨8, 0850_012_0449_082_0858_074_0859_075_0860_076_0855_065_0856_066_0002_002_0852_063_0853_064_0854_021_0861_173_0862_078_0863_079_0851_023_0857_172_0448_171, 0738_027⟩,
  ⟨8, 0850_012_0449_082_0864_072_0858_074_0859_075_0860_076_0855_065_0856_066_0002_002_0852_063_0853_064_0854_021_0861_173_0862_078_0863_079_0851_023_0857_172_0448_174, 0738_027⟩,
  ⟨8, 0850_012_0855_065_0856_066_0002_002_0852_063_0854_021_0851_023_0449_169_0448_175, 0738_027⟩,
  ⟨8, 0850_012_0855_065_0856_066_0002_002_0852_063_0853_064_0854_021_0861_173_0862_078_0863_079_0851_023_0857_172_0449_177_0448_176, 0738_027⟩,
  ⟨8, 0850_012_0858_074_0855_065_0856_066_0002_002_0852_063_0449_178_0853_064_0854_021_0861_173_0862_078_0863_079_0851_023_0857_172_0448_176, 0738_027⟩,
  ⟨8, 0850_012_0858_074_0859_075_0855_065_0856_066_0002_002_0852_063_0449_178_0853_064_0854_021_0861_173_0862_078_0863_079_0851_023_0857_172_0448_171, 0738_027⟩,
  ⟨8, 0850_012_0855_065_0856_066_0002_002_0852_063_0851_023_0449_179_0448_175, 0738_027⟩,
  ⟨8, 0850_012_0856_066_0002_002_0851_023_0449_166_0448_170, 0738_027⟩,
  ⟨8, 0850_012_0855_065_0856_066_0002_002_0852_063_0853_064_0854_021_0861_173_0851_023_0857_172_0449_181_0448_180, 0738_027⟩,
  ⟨8, 0850_012_0449_082_0864_072_0865_073_0858_074_0859_075_0860_076_0855_065_0856_066_0002_002_0852_063_0853_064_0854_021_0861_173_0862_078_0863_079_0851_023_0857_172_0448_182, 0738_027⟩,
  ⟨18, 0002_002_0866_060_0444_166_0443_183, 0732_026⟩,
  ⟨8, 0850_012_0867_082_0864_072_0865_073_0858_074_0859_075_0860_076_0855_065_0856_066_0868_083_0002_002_0852_063_0853_064_0854_021_0861_173_0862_078_0863_079_0851_023_0857_172_0474_184, 0738_027⟩,
  ⟨17, 0002_002_0477_166_0476_185, 0⟩,
  ⟨8, 0850_012_0867_082_0864_072_0865_073_0858_074_0859_075_0860_076_0855_065_0856_066_0868_083_0002_002_0852_063_0853_064_0854_021_0861_173_0862_078_0863_079_0851_023_0857_172_0466_184, 0738_027⟩,
  ⟨8, 0850_012_0867_082_0864_072_0865_073_0858_074_0859_075_0860_076_0855_065_0856_066_0868_083_0002_002_0852_063_0853_064_0854_021_0861_173_0862_078_0863_079_0851_023_0857_172_0472_184, 0738_027⟩,
  ⟨8, 0850_012_0867_082_0864_072_0865_073_0858_074_0859_075_0860_076_0855_065_0856_066_0868_083_0002_002_0852_063_0853_064_0854_021_0861_173_0862_078_0863_079_0851_023_0857_172_0478_184, 0738_027⟩,
  ⟨8, 0850_012_0002_002_0851_023_0481_166_0480_167, 0738_027⟩,
  ⟨18, 0002_002_0866_060_0447_166_0446_183, 0733_026⟩,
  ⟨18, 0002_002_0869_060_0441_166_0440_183, 0733_026⟩,
  ⟨8, 0850_012_0002_002_0483_166_0482_186, 0738_027⟩,
  ⟨11, 0870_012_0871_066_0002_002_0872_023_0449_166_0448_187, 0801_027⟩,
  ⟨11, 0870_012_0449_082_0875_072_0876_073_0878_074_0879_075_0880_076_0882_065_0871_066_0002_002_0874_063_0877_064_0881_021_0883_173_0884_078_0885_079_0872_023_0873_172_0448_188, 0801_027⟩,
  ⟨8, 0002_002_0533_166_0532_165, 0⟩,
  ⟨8, 0002_002_0555_166_0554_165, 0⟩,
  ⟨8, 0002_002_0513_166_0512_165, 0⟩,
  ⟨11, 0870_012_0886_082_0875_072_0876_073_0878_074_0879_075_0880_076_0882_065_0871_066_0887_083_0002_002_0874_063_0877_064_0881_021_0883_173_0884_078_0885_079_0872_023_0873_172_0466_189, 0801_027⟩,
  ⟨8, 0002_002_0503_166_0502_165, 0⟩,
  ⟨11, 0870_012_0882_065_0871_066_0002_002_0874_063_0877_064_0881_021_0872_023_0449_169_0448_190, 0801_027⟩,
  ⟨11, 0870_012_0886_082_0875_072_0876_073_0878_074_0879_075_0880_076_0882_065_0871_066_0887_083_0002_002_0874_063_0877_064_0881_021_0883_173_0884_078_0885_079_0872_023_0873_172_0472_189, 0801_027⟩,
  ⟨8, 0002_002_0497_166_0496_165, 0⟩,
  ⟨8, 0002_002_0515_166_0514_165, 0⟩,
  ⟨8, 0002_002_0519_166_0518_165, 0⟩,
  ⟨8, 0002_002_0521_166_0520_165, 0⟩,
  ⟨8, 0002_002_0523_166_0522_165, 0⟩,
  ⟨8, 0002_002_0525_166_0524_165, 0⟩,
  ⟨8, 0002_002_0527_166_0526_165, 0⟩,
  ⟨11, 0870_012_0886_082_0875_072_0876_073_0878_074_0879_075_0880_076_0882_065_0871_066_0887_083_0002_002_0874_063_0877_064_0881_021_0883_173_0884_078_0885_079_0872_023_0873_172_0474_189, 0801_027⟩,
  ⟨8, 0002_002_0535_166_0534_165, 0⟩,
  ⟨8, 0002_002_0487_166_0486_165, 0⟩,
  ⟨8, 0002_002_0549_166_0548_165, 0⟩,
  ⟨8, 0002_002_0551_166_0550_165, 0⟩,
  ⟨8, 0002_002_0553_166_0552_165, 0⟩,
  ⟨8, 0002_002_0557_166_0556_165, 0⟩,
  ⟨18, 0002_002_0477_166_0476_191, 0⟩,
  ⟨8, 0002_002_0559_166_0558_165, 0⟩,
  ⟨8, 0002_002_0517_166_0516_165, 0⟩,
  ⟨8, 0002_002_0489_166_0488_165, 0⟩,
  ⟨8, 0002_002_0491_166_0490_165, 0⟩,
  ⟨8, 0002_002_0493_166_0492_165, 0⟩,
  ⟨8, 0002_002_0495_166_0494_165, 0⟩,
  ⟨11, 0870_012_0002_002_0483_166_0482_192, 0801_027⟩,
  ⟨11, 0870_012_0002_002_0872_023_0485_166_0484_193, 0801_027⟩,
  ⟨11, 0870_012_0886_082_0875_072_0876_073_0878_074_0879_075_0880_076_0882_065_0871_066_0887_083_0002_002_0874_063_0877_064_0881_021_0883_173_0884_078_0885_079_0872_023_0873_172_0478_189, 0801_027⟩]

end Ucode.Grammar
