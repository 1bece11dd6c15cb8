import Ucode.Grammar.StateRow

/-!
# Parse states 0 to 383
-/
namespace Ucode.Grammar

/-- Parse states from 0 on. -/
def states0 : Array StateRow := #[
  ⟨0, 0002_002_0001_001, 0⟩,
  ⟨1, 0003_003_0004_004_0005_005_0007_007_0008_008_0009_009_0010_010_0011_011_0012_012_0013_013_0014_014_0015_015_0016_016_0017_017_0018_018_0020_020_0024_024_0002_002_0027_027_0028_028_0029_029_0006_006_0021_021_0022_022_0023_023_0026_026_0019_019_0025_025, 1277_001_1111_003_1108_004_0425_005_0404_006_0416_007_0418_008_0456_009_0428_010_0433_011_0395_012_1028_016_1447_017_0315_019_0321_015_1099_018_0850_013_0812_014_0032_002⟩,
  ⟨1, 0030_003_0031_005_0033_007_0034_008_0035_009_0037_010_0038_011_0039_012_0040_013_0041_014_0042_015_0043_016_0044_017_0045_018_0047_020_0051_024_0002_002_0054_027_0055_028_0056_029_0032_006_0048_021_0049_022_0050_023_0053_026_0046_019_0052_025_0036_030, 1111_003_1108_004_0425_005_0404_006_0416_007_0418_008_0456_009_0428_010_0433_011_0395_012_1028_016_1447_017_0315_019_0321_015_1099_018_0850_013_0812_014_0002_020⟩,
  ⟨2, 0057_003_0058_005_0007_007_0008_008_0060_009_0061_010_0062_011_0012_012_0063_031_0064_013_0065_014_0066_032_0067_015_0068_016_0069_017_0070_018_0071_020_0024_024_0002_002_0073_033_0027_027_0028_028_0074_029_0059_006_0021_021_0022_022_0023_023_0026_034_0019_019_0072_025, 1101_003_1103_004_0687_005_0688_006_0689_007_0690_008_0692_009_0693_010_0694_011_0695_012_1028_016_1216_021_1153_022_1447_017_1434_023_0305_019_0321_015_1119_018_0850_013_0812_014_0039_020⟩,
  ⟨2, 0057_003_0058_005_0007_007_0008_008_0060_009_0061_010_0062_011_0012_012_0063_031_0064_013_0065_014_0076_032_0067_015_0068_016_0069_017_0070_018_0071_020_0024_024_0002_002_0073_033_0027_027_0028_028_0074_029_0075_006_0021_021_0022_022_0023_023_0026_034_0019_019_0077_025, 1101_003_1103_004_0687_005_0688_006_0689_007_0690_008_0692_009_0693_010_0694_011_0695_012_1028_016_1216_021_1153_022_1447_017_1434_023_0305_019_0321_015_1119_018_0850_013_0812_014_0048_020⟩,
  ⟨2, 0057_003_0058_005_0007_007_0008_008_0060_009_0061_010_0062_011_0012_012_0063_031_0064_013_0065_014_0079_032_0067_015_0068_016_0069_017_0070_018_0071_020_0024_024_0002_002_0073_033_0027_027_0028_028_0074_029_0078_006_0021_021_0022_022_0023_023_0026_034_0019_019_0080_025, 1101_003_1103_004_0687_005_0688_006_0689_007_0690_008_0692_009_0693_010_0694_011_0695_012_1028_016_1216_021_1130_022_1447_017_1434_023_0305_019_0321_015_1119_018_0850_013_0812_014_0101_020⟩,
  ⟨2, 0057_003_0058_005_0007_007_0008_008_0060_009_0061_010_0062_011_0012_012_0063_031_0064_013_0065_014_0082_032_0067_015_0068_016_0069_017_0070_018_0071_020_0024_024_0002_002_0073_033_0027_027_0028_028_0074_029_0081_006_0021_021_0022_022_0023_023_0026_034_0019_019_0083_025, 1101_003_1103_004_0687_005_0688_006_0689_007_0690_008_0692_009_0693_010_0694_011_0695_012_1028_016_1216_021_1153_022_1447_017_1434_023_0305_019_0321_015_1119_018_0850_013_0812_014_0081_020⟩,
  ⟨2, 0057_003_0058_005_0007_007_0008_008_0060_009_0061_010_0062_011_0012_012_0063_031_0064_013_0065_014_0085_032_0067_015_0068_016_0069_017_0070_018_0071_020_0024_024_0002_002_0073_033_0027_027_0028_028_0074_029_0084_006_0021_021_0022_022_0023_023_0026_034_0019_019_0086_025, 1101_003_1103_004_0687_005_0688_006_0689_007_0690_008_0692_009_0693_010_0694_011_0695_012_1028_016_1216_021_1171_022_1447_017_1434_023_0305_019_0321_015_1119_018_0850_013_0812_014_0091_020⟩,
  ⟨2, 0057_003_0058_005_0007_007_0008_008_0060_009_0061_010_0062_011_0012_012_0063_031_0064_013_0065_014_0088_032_0067_015_0068_016_0069_017_0070_018_0071_020_0024_024_0002_002_0073_033_0027_027_0028_028_0074_029_0087_006_0021_021_0022_022_0023_023_0026_034_0019_019_0089_025, 1101_003_1103_004_0687_005_0688_006_0689_007_0690_008_0692_009_0693_010_0694_011_0695_012_1028_016_1216_021_1141_022_1447_017_1434_023_0305_019_0321_015_1119_018_0850_013_0812_014_0111_020⟩,
  ⟨2, 0057_003_0058_005_0007_007_0008_008_0060_009_0061_010_0062_011_0012_012_0063_031_0064_013_0065_014_0090_032_0067_015_0068_016_0069_017_0070_018_0071_020_0024_024_0002_002_0073_033_0027_027_0028_028_0074_029_0059_006_0021_021_0022_022_0023_023_0026_034_0019_019_0072_025, 1101_003_1103_004_0687_005_0688_006_0689_007_0690_008_0692_009_0693_010_0694_011_0695_012_1028_016_1216_021_1155_022_1447_017_1434_023_0305_019_0321_015_1119_018_0850_013_0812_014_0039_020⟩,
  ⟨2, 0057_003_0058_005_0007_007_0008_008_0060_009_0061_010_0062_011_0012_012_0063_031_0064_013_0065_014_0092_032_0067_015_0068_016_0069_017_0070_018_0071_020_0024_024_0002_002_0073_033_0027_027_0028_028_0074_029_0091_006_0021_021_0022_022_0023_023_0026_034_0019_019_0093_025, 1101_003_1103_004_0687_005_0688_006_0689_007_0690_008_0692_009_0693_010_0694_011_0695_012_1028_016_1216_021_1149_022_1447_017_1434_023_0305_019_0321_015_1119_018_0850_013_0812_014_0121_020⟩,
  ⟨2, 0057_003_0058_005_0007_007_0008_008_0060_009_0061_010_0062_011_0012_012_0063_031_0064_013_0065_014_0094_032_0067_015_0068_016_0069_017_0070_018_0071_020_0024_024_0002_002_0073_033_0027_027_0028_028_0074_029_0075_006_0021_021_0022_022_0023_023_0026_034_0019_019_0077_025, 1101_003_1103_004_0687_005_0688_006_0689_007_0690_008_0692_009_0693_010_0694_011_0695_012_1028_016_1216_021_1163_022_1447_017_1434_023_0305_019_0321_015_1119_018_0850_013_0812_014_0048_020⟩,
  ⟨1, 0003_003_0005_005_0007_007_0008_008_0009_009_0096_035_0097_036_0098_037_0010_010_0011_011_0012_012_0013_013_0014_014_0015_015_0016_016_0017_017_0018_018_0020_020_0024_024_0002_002_0027_027_0028_028_0029_029_0095_006_0021_021_0022_022_0023_023_0026_026_0019_019_0099_025, 1111_003_1108_004_0425_005_0404_006_0416_007_0418_008_0456_009_0428_010_0433_011_0395_012_1028_016_1447_017_0315_019_1113_024_0321_015_1099_018_0850_013_0812_014_0002_020⟩,
  ⟨1, 0003_003_0005_005_0007_007_0008_008_0009_009_0100_035_0097_036_0101_037_0010_010_0011_011_0012_012_0013_013_0014_014_0015_015_0016_016_0017_017_0018_018_0020_020_0024_024_0002_002_0027_027_0028_028_0029_029_0095_006_0021_021_0022_022_0023_023_0026_026_0019_019_0099_025, 1111_003_1108_004_0425_005_0404_006_0416_007_0418_008_0456_009_0428_010_0433_011_0395_012_1028_016_1447_017_0315_019_1121_024_0321_015_1099_018_0850_013_0812_014_0002_020⟩,
  ⟨3, 0030_003_0102_005_0033_007_0034_008_0104_009_0105_010_0106_011_0039_012_0107_013_0108_014_0109_032_0110_015_0111_016_0112_017_0113_018_0047_020_0051_024_0002_002_0054_027_0055_028_0115_029_0103_006_0036_038_0048_021_0049_022_0050_023_0053_026_0046_019_0114_025, 1101_003_1103_004_0687_005_0688_006_0689_007_0690_008_0692_009_0693_010_0694_011_0695_012_1028_016_1447_017_0315_019_0321_015_1119_018_0850_013_0812_014_0014_020⟩,
  ⟨3, 0003_003_0058_005_0007_007_0008_008_0060_009_0061_010_0062_011_0012_012_0064_013_0065_014_0117_032_0067_015_0068_016_0069_017_0070_018_0020_020_0024_024_0002_002_0027_027_0028_028_0074_029_0116_006_0118_038_0021_021_0022_022_0023_023_0026_026_0019_019_0119_025, 1101_003_1103_004_0687_005_0688_006_0689_007_0690_008_0692_009_0693_010_0694_011_0695_012_1028_016_1447_017_0315_019_0321_015_1119_018_0850_013_0812_014_0018_020⟩,
  ⟨1, 0003_003_0005_005_0007_007_0008_008_0009_009_0010_010_0011_011_0012_012_0013_013_0014_014_0015_015_0016_016_0017_017_0018_018_0020_020_0024_024_0002_002_0027_027_0028_028_0029_029_0095_006_0021_021_0022_022_0023_023_0120_039_0026_026_0019_019_0099_025, 1111_003_1108_004_0425_005_0404_006_0416_007_0418_008_0456_009_0428_010_0433_011_0395_012_1028_016_1447_017_0315_019_0321_015_1099_018_0850_013_0812_014_0002_020⟩,
  ⟨3, 0003_003_0058_005_0007_007_0008_008_0060_009_0061_010_0062_011_0012_012_0064_013_0065_014_0122_032_0067_015_0068_016_0069_017_0070_018_0020_020_0024_024_0002_002_0027_027_0028_028_0074_029_0121_006_0123_038_0021_021_0022_022_0023_023_0026_026_0019_019_0124_025, 1101_003_1103_004_0687_005_0688_006_0689_007_0690_008_0692_009_0693_010_0694_011_0695_012_1028_016_1447_017_0315_019_0321_015_1119_018_0850_013_0812_014_0019_020⟩,
  ⟨3, 0003_003_0058_005_0007_007_0008_008_0060_009_0061_010_0062_011_0012_012_0064_013_0065_014_0126_032_0067_015_0068_016_0069_017_0070_018_0020_020_0024_024_0002_002_0027_027_0028_028_0074_029_0125_006_0127_038_0021_021_0022_022_0023_023_0026_026_0019_019_0128_025, 1101_003_1103_004_0687_005_0688_006_0689_007_0690_008_0692_009_0693_010_0694_011_0695_012_1028_016_1447_017_0315_019_0321_015_1119_018_0850_013_0812_014_0014_020⟩,
  ⟨3, 0003_003_0058_005_0007_007_0008_008_0060_009_0061_010_0062_011_0012_012_0064_013_0065_014_0129_032_0067_015_0068_016_0069_017_0070_018_0020_020_0024_024_0002_002_0027_027_0028_028_0074_029_0125_006_0130_038_0021_021_0022_022_0023_023_0026_026_0019_019_0128_025, 1101_003_1103_004_0687_005_0688_006_0689_007_0690_008_0692_009_0693_010_0694_011_0695_012_1028_016_1447_017_0315_019_0321_015_1119_018_0850_013_0812_014_0014_020⟩,
  ⟨3, 0003_003_0058_005_0007_007_0008_008_0060_009_0061_010_0062_011_0012_012_0064_013_0065_014_0131_032_0067_015_0068_016_0069_017_0070_018_0020_020_0024_024_0002_002_0027_027_0028_028_0074_029_0125_006_0021_021_0022_022_0023_023_0026_026_0019_019_0128_025, 1101_003_1103_004_0687_005_0688_006_0689_007_0690_008_0692_009_0693_010_0694_011_0695_012_1028_016_1447_017_0315_019_0321_015_1119_018_0850_013_0812_014_0014_020⟩,
  ⟨1, 0003_003_0005_005_0007_007_0008_008_0009_009_0010_010_0011_011_0012_012_0013_013_0132_040_0014_014_0015_015_0016_016_0017_017_0018_018_0020_020_0024_024_0002_002_0027_027_0028_028_0029_029_0095_006_0021_021_0022_022_0023_023_0026_026_0019_019_0099_025, 1111_003_1108_004_0425_005_0404_006_0416_007_0418_008_0456_009_0428_010_0433_011_0395_012_1028_016_1447_017_0315_019_0321_015_1099_018_0850_013_0812_014_0002_020⟩,
  ⟨3, 0003_003_0058_005_0007_007_0008_008_0060_009_0061_010_0062_011_0012_012_0064_013_0065_014_0133_032_0067_015_0068_016_0069_017_0070_018_0020_020_0024_024_0002_002_0027_027_0028_028_0074_029_0125_006_0021_021_0022_022_0023_023_0026_026_0019_019_0128_025, 1101_003_1103_004_0687_005_0688_006_0689_007_0690_008_0692_009_0693_010_0694_011_0695_012_1028_016_1447_017_0315_019_0321_015_1119_018_0850_013_0812_014_0014_020⟩,
  ⟨3, 0003_003_0058_005_0007_007_0008_008_0060_009_0061_010_0062_011_0012_012_0064_013_0065_014_0135_032_0067_015_0068_016_0069_017_0070_018_0020_020_0024_024_0002_002_0027_027_0028_028_0074_029_0134_006_0021_021_0022_022_0023_023_0026_026_0019_019_0136_025, 1101_003_1103_004_0687_005_0688_006_0689_007_0690_008_0692_009_0693_010_0694_011_0695_012_1028_016_1447_017_0315_019_0321_015_1119_018_0850_013_0812_014_0031_020⟩,
  ⟨3, 0003_003_0058_005_0007_007_0008_008_0060_009_0061_010_0062_011_0012_012_0064_013_0065_014_0137_032_0067_015_0068_016_0069_017_0070_018_0020_020_0024_024_0002_002_0027_027_0028_028_0074_029_0125_006_0021_021_0022_022_0023_023_0026_026_0019_019_0128_025, 1101_003_1103_004_0687_005_0688_006_0689_007_0690_008_0692_009_0693_010_0694_011_0695_012_1028_016_1447_017_0315_019_0321_015_1119_018_0850_013_0812_014_0014_020⟩,
  ⟨3, 0003_003_0058_005_0007_007_0008_008_0060_009_0061_010_0062_011_0012_012_0064_013_0065_014_0139_032_0067_015_0068_016_0069_017_0070_018_0020_020_0024_024_0002_002_0027_027_0028_028_0074_029_0138_006_0021_021_0022_022_0023_023_0026_026_0019_019_0140_025, 1101_003_1103_004_0687_005_0688_006_0689_007_0690_008_0692_009_0693_010_0694_011_0695_012_1028_016_1447_017_0315_019_0321_015_1119_018_0850_013_0812_014_0033_020⟩,
  ⟨3, 0003_003_0058_005_0007_007_0008_008_0060_009_0061_010_0062_011_0012_012_0064_013_0065_014_0142_032_0067_015_0068_016_0069_017_0070_018_0020_020_0024_024_0002_002_0027_027_0028_028_0074_029_0141_006_0021_021_0022_022_0023_023_0026_026_0019_019_0143_025, 1101_003_1103_004_0687_005_0688_006_0689_007_0690_008_0692_009_0693_010_0694_011_0695_012_1028_016_1447_017_0315_019_0321_015_1119_018_0850_013_0812_014_0034_020⟩,
  ⟨3, 0003_003_0058_005_0007_007_0008_008_0060_009_0061_010_0062_011_0012_012_0064_013_0065_014_0144_032_0067_015_0068_016_0069_017_0070_018_0020_020_0024_024_0002_002_0027_027_0028_028_0074_029_0125_006_0021_021_0022_022_0023_023_0026_026_0019_019_0128_025, 1101_003_1103_004_0687_005_0688_006_0689_007_0690_008_0692_009_0693_010_0694_011_0695_012_1028_016_1447_017_0315_019_0321_015_1119_018_0850_013_0812_014_0014_020⟩,
  ⟨3, 0003_003_0058_005_0007_007_0008_008_0060_009_0061_010_0062_011_0012_012_0064_013_0065_014_0146_032_0067_015_0068_016_0069_017_0070_018_0020_020_0024_024_0002_002_0027_027_0028_028_0074_029_0145_006_0021_021_0022_022_0023_023_0026_026_0019_019_0147_025, 1101_003_1103_004_0687_005_0688_006_0689_007_0690_008_0692_009_0693_010_0694_011_0695_012_1028_016_1447_017_0315_019_0321_015_1119_018_0850_013_0812_014_0036_020⟩,
  ⟨1, 0003_003_0005_005_0007_007_0008_008_0009_009_0148_037_0010_010_0011_011_0012_012_0013_013_0014_014_0015_015_0016_016_0017_017_0018_018_0020_020_0024_024_0002_002_0027_027_0028_028_0029_029_0095_006_0021_021_0022_022_0023_023_0026_026_0019_019_0099_025, 1111_003_1108_004_0425_005_0404_006_0416_007_0418_008_0456_009_0428_010_0433_011_0395_012_1028_016_1447_017_0315_019_0321_015_1099_018_0850_013_0812_014_0002_020⟩,
  ⟨1, 0003_003_0005_005_0007_007_0008_008_0009_009_0010_010_0011_011_0012_012_0013_013_0149_040_0014_014_0015_015_0016_016_0017_017_0018_018_0020_020_0024_024_0002_002_0027_027_0028_028_0029_029_0095_006_0021_021_0022_022_0023_023_0026_026_0019_019_0099_025, 1111_003_1108_004_0425_005_0404_006_0416_007_0418_008_0456_009_0428_010_0433_011_0395_012_1028_016_1447_017_0315_019_0321_015_1099_018_0850_013_0812_014_0002_020⟩,
  ⟨3, 0003_003_0058_005_0007_007_0008_008_0060_009_0061_010_0062_011_0012_012_0064_013_0065_014_0150_032_0067_015_0068_016_0069_017_0070_018_0020_020_0024_024_0002_002_0027_027_0028_028_0074_029_0125_006_0021_021_0022_022_0023_023_0026_026_0019_019_0128_025, 1101_003_1103_004_0687_005_0688_006_0689_007_0690_008_0692_009_0693_010_0694_011_0695_012_1028_016_1447_017_0315_019_0321_015_1119_018_0850_013_0812_014_0014_020⟩,
  ⟨1, 0151_041_0003_003_0005_005_0007_007_0008_008_0009_009_0010_010_0011_011_0012_012_0013_013_0014_014_0015_015_0016_016_0017_017_0018_018_0020_020_0024_024_0002_002_0027_027_0028_028_0029_029_0152_006_0021_021_0022_022_0023_023_0026_026_0019_019_0153_025, 1111_003_1108_004_0425_005_0404_006_0416_007_0418_008_0456_009_0428_010_0433_011_0395_012_1028_016_1447_017_0315_019_0321_015_1099_018_0850_013_0812_014_0037_002⟩,
  ⟨3, 0003_003_0058_005_0007_007_0008_008_0060_009_0061_010_0062_011_0012_012_0064_013_0065_014_0154_032_0067_015_0068_016_0069_017_0070_018_0020_020_0024_024_0002_002_0027_027_0028_028_0074_029_0125_006_0021_021_0022_022_0023_023_0026_026_0019_019_0128_025, 1101_003_1103_004_0687_005_0688_006_0689_007_0690_008_0692_009_0693_010_0694_011_0695_012_1028_016_1447_017_0315_019_0321_015_1119_018_0850_013_0812_014_0014_020⟩,
  ⟨3, 0003_003_0058_005_0007_007_0008_008_0060_009_0061_010_0062_011_0012_012_0064_013_0065_014_0155_032_0067_015_0068_016_0069_017_0070_018_0020_020_0024_024_0002_002_0027_027_0028_028_0074_029_0125_006_0021_021_0022_022_0023_023_0026_026_0019_019_0128_025, 1101_003_1103_004_0687_005_0688_006_0689_007_0690_008_0692_009_0693_010_0694_011_0695_012_1028_016_1447_017_0315_019_0321_015_1119_018_0850_013_0812_014_0014_020⟩,
  ⟨3, 0003_003_0058_005_0007_007_0008_008_0060_009_0061_010_0062_011_0012_012_0064_013_0065_014_0157_032_0067_015_0068_016_0069_017_0070_018_0020_020_0024_024_0002_002_0027_027_0028_028_0074_029_0156_006_0021_021_0022_022_0023_023_0026_026_0019_019_0158_025, 1101_003_1103_004_0687_005_0688_006_0689_007_0690_008_0692_009_0693_010_0694_011_0695_012_1028_016_1447_017_0315_019_0321_015_1119_018_0850_013_0812_014_0041_020⟩,
  ⟨3, 0003_003_0058_005_0007_007_0008_008_0060_009_0061_010_0062_011_0012_012_0064_013_0065_014_0159_032_0067_015_0068_016_0069_017_0070_018_0020_020_0024_024_0002_002_0027_027_0028_028_0074_029_0125_006_0021_021_0022_022_0023_023_0026_026_0019_019_0128_025, 1101_003_1103_004_0687_005_0688_006_0689_007_0690_008_0692_009_0693_010_0694_011_0695_012_1028_016_1447_017_0315_019_0321_015_1119_018_0850_013_0812_014_0014_020⟩,
  ⟨1, 0160_041_0161_003_0162_005_0164_007_0165_008_0166_009_0167_010_0168_011_0169_012_0170_013_0171_014_0172_015_0173_016_0174_017_0175_018_0177_020_0181_024_0002_002_0184_027_0185_028_0186_029_0163_006_0178_021_0179_022_0180_023_0183_026_0176_019_0182_025, 1111_003_1108_004_0425_005_0404_006_0416_007_0418_008_0456_009_0428_010_0433_011_0395_012_1028_016_1447_017_0315_019_0321_015_1099_018_0850_013_0812_014_0037_002⟩,
  ⟨1, 0187_041_0003_003_0005_005_0007_007_0008_008_0009_009_0010_010_0011_011_0012_012_0013_013_0014_014_0015_015_0016_016_0017_017_0018_018_0020_020_0024_024_0002_002_0027_027_0028_028_0029_029_0152_006_0021_021_0022_022_0023_023_0026_026_0019_019_0153_025, 1111_003_1108_004_0425_005_0404_006_0416_007_0418_008_0456_009_0428_010_0433_011_0395_012_1028_016_1447_017_0315_019_0321_015_1099_018_0850_013_0812_014_0037_002⟩,
  ⟨3, 0003_003_0058_005_0007_007_0008_008_0060_009_0061_010_0062_011_0012_012_0064_013_0065_014_0188_032_0067_015_0068_016_0069_017_0070_018_0020_020_0024_024_0002_002_0027_027_0028_028_0074_029_0125_006_0021_021_0022_022_0023_023_0026_026_0019_019_0128_025, 1101_003_1103_004_0687_005_0688_006_0689_007_0690_008_0692_009_0693_010_0694_011_0695_012_1028_016_1447_017_0315_019_0321_015_1119_018_0850_013_0812_014_0014_020⟩,
  ⟨3, 0003_003_0058_005_0007_007_0008_008_0060_009_0061_010_0062_011_0012_012_0064_013_0065_014_0190_032_0067_015_0068_016_0069_017_0070_018_0020_020_0024_024_0002_002_0027_027_0028_028_0074_029_0189_006_0021_021_0022_022_0023_023_0026_026_0019_019_0191_025, 1101_003_1103_004_0687_005_0688_006_0689_007_0690_008_0692_009_0693_010_0694_011_0695_012_1028_016_1447_017_0315_019_0321_015_1119_018_0850_013_0812_014_0043_020⟩,
  ⟨3, 0003_003_0058_005_0007_007_0008_008_0060_009_0061_010_0062_011_0012_012_0064_013_0065_014_0192_032_0067_015_0068_016_0069_017_0070_018_0020_020_0024_024_0002_002_0027_027_0028_028_0074_029_0125_006_0021_021_0022_022_0023_023_0026_026_0019_019_0128_025, 1101_003_1103_004_0687_005_0688_006_0689_007_0690_008_0692_009_0693_010_0694_011_0695_012_1028_016_1447_017_0315_019_0321_015_1119_018_0850_013_0812_014_0014_020⟩,
  ⟨3, 0003_003_0058_005_0007_007_0008_008_0060_009_0061_010_0062_011_0012_012_0064_013_0065_014_0193_032_0067_015_0068_016_0069_017_0070_018_0020_020_0024_024_0002_002_0027_027_0028_028_0074_029_0125_006_0021_021_0022_022_0023_023_0026_026_0019_019_0128_025, 1101_003_1103_004_0687_005_0688_006_0689_007_0690_008_0692_009_0693_010_0694_011_0695_012_1028_016_1447_017_0315_019_0321_015_1119_018_0850_013_0812_014_0014_020⟩,
  ⟨3, 0003_003_0058_005_0007_007_0008_008_0060_009_0061_010_0062_011_0012_012_0064_013_0065_014_0194_032_0067_015_0068_016_0069_017_0070_018_0020_020_0024_024_0002_002_0027_027_0028_028_0074_029_0125_006_0021_021_0022_022_0023_023_0026_026_0019_019_0128_025, 1101_003_1103_004_0687_005_0688_006_0689_007_0690_008_0692_009_0693_010_0694_011_0695_012_1028_016_1447_017_0315_019_0321_015_1119_018_0850_013_0812_014_0014_020⟩,
  ⟨3, 0003_003_0058_005_0007_007_0008_008_0060_009_0061_010_0062_011_0012_012_0064_013_0065_014_0196_032_0067_015_0068_016_0069_017_0070_018_0020_020_0024_024_0002_002_0027_027_0028_028_0074_029_0195_006_0021_021_0022_022_0023_023_0026_026_0019_019_0197_025, 1101_003_1103_004_0687_005_0688_006_0689_007_0690_008_0692_009_0693_010_0694_011_0695_012_1028_016_1447_017_0315_019_0321_015_1119_018_0850_013_0812_014_0045_020⟩,
  ⟨3, 0003_003_0058_005_0007_007_0008_008_0060_009_0061_010_0062_011_0012_012_0064_013_0065_014_0198_032_0067_015_0068_016_0069_017_0070_018_0020_020_0024_024_0002_002_0027_027_0028_028_0074_029_0125_006_0021_021_0022_022_0023_023_0026_026_0019_019_0128_025, 1101_003_1103_004_0687_005_0688_006_0689_007_0690_008_0692_009_0693_010_0694_011_0695_012_1028_016_1447_017_0315_019_0321_015_1119_018_0850_013_0812_014_0014_020⟩,
  ⟨3, 0003_003_0058_005_0007_007_0008_008_0060_009_0061_010_0062_011_0012_012_0064_013_0065_014_0200_032_0067_015_0068_016_0069_017_0070_018_0020_020_0024_024_0002_002_0027_027_0028_028_0074_029_0199_006_0021_021_0022_022_0023_023_0026_026_0019_019_0201_025, 1101_003_1103_004_0687_005_0688_006_0689_007_0690_008_0692_009_0693_010_0694_011_0695_012_1028_016_1447_017_0315_019_0321_015_1119_018_0850_013_0812_014_0042_020⟩,
  ⟨1, 0003_003_0005_005_0007_007_0008_008_0009_009_0010_010_0202_042_0011_011_0012_012_0013_013_0014_014_0015_015_0016_016_0017_017_0018_018_0020_020_0024_024_0002_002_0027_027_0028_028_0029_029_0095_006_0021_021_0022_022_0023_023_0026_026_0019_019_0099_025, 1111_003_1108_004_0425_005_0404_006_0416_007_0418_008_0456_009_0428_010_0433_011_0395_012_1028_016_1447_017_0315_019_0321_015_1099_018_0850_013_0812_014_0002_020⟩,
  ⟨3, 0003_003_0058_005_0007_007_0008_008_0060_009_0061_010_0062_011_0012_012_0064_013_0065_014_0203_032_0067_015_0068_016_0069_017_0070_018_0020_020_0024_024_0002_002_0027_027_0028_028_0074_029_0125_006_0021_021_0022_022_0023_023_0026_026_0019_019_0128_025, 1101_003_1103_004_0687_005_0688_006_0689_007_0690_008_0692_009_0693_010_0694_011_0695_012_1028_016_1447_017_0315_019_0321_015_1119_018_0850_013_0812_014_0014_020⟩,
  ⟨3, 0003_003_0058_005_0007_007_0008_008_0060_009_0061_010_0062_011_0012_012_0064_013_0065_014_0205_032_0067_015_0068_016_0069_017_0070_018_0020_020_0024_024_0002_002_0027_027_0028_028_0074_029_0204_006_0021_021_0022_022_0023_023_0026_026_0019_019_0206_025, 1101_003_1103_004_0687_005_0688_006_0689_007_0690_008_0692_009_0693_010_0694_011_0695_012_1028_016_1447_017_0315_019_0321_015_1119_018_0850_013_0812_014_0133_020⟩,
  ⟨1, 0003_003_0005_005_0007_007_0008_008_0009_009_0010_010_0207_042_0011_011_0012_012_0013_013_0014_014_0015_015_0016_016_0017_017_0018_018_0020_020_0024_024_0002_002_0027_027_0028_028_0029_029_0095_006_0021_021_0022_022_0023_023_0026_026_0019_019_0099_025, 1111_003_1108_004_0425_005_0404_006_0416_007_0418_008_0456_009_0428_010_0433_011_0395_012_1028_016_1447_017_0315_019_0321_015_1099_018_0850_013_0812_014_0002_020⟩,
  ⟨3, 0003_003_0058_005_0007_007_0008_008_0060_009_0061_010_0062_011_0012_012_0064_013_0065_014_0209_032_0067_015_0068_016_0069_017_0070_018_0020_020_0024_024_0002_002_0027_027_0028_028_0074_029_0208_006_0021_021_0022_022_0023_023_0026_026_0019_019_0210_025, 1101_003_1103_004_0687_005_0688_006_0689_007_0690_008_0692_009_0693_010_0694_011_0695_012_1028_016_1447_017_0315_019_0321_015_1119_018_0850_013_0812_014_0052_020⟩,
  ⟨3, 0003_003_0058_005_0007_007_0008_008_0060_009_0061_010_0062_011_0012_012_0064_013_0065_014_0211_032_0067_015_0068_016_0069_017_0070_018_0020_020_0024_024_0002_002_0027_027_0028_028_0074_029_0125_006_0021_021_0022_022_0023_023_0026_026_0019_019_0128_025, 1101_003_1103_004_0687_005_0688_006_0689_007_0690_008_0692_009_0693_010_0694_011_0695_012_1028_016_1447_017_0315_019_0321_015_1119_018_0850_013_0812_014_0014_020⟩,
  ⟨3, 0003_003_0058_005_0007_007_0008_008_0060_009_0061_010_0062_011_0012_012_0064_013_0065_014_0213_032_0067_015_0068_016_0069_017_0070_018_0020_020_0024_024_0002_002_0027_027_0028_028_0074_029_0212_006_0021_021_0022_022_0023_023_0026_026_0019_019_0214_025, 1101_003_1103_004_0687_005_0688_006_0689_007_0690_008_0692_009_0693_010_0694_011_0695_012_1028_016_1447_017_0315_019_0321_015_1119_018_0850_013_0812_014_0059_020⟩,
  ⟨3, 0003_003_0058_005_0007_007_0008_008_0060_009_0061_010_0062_011_0012_012_0064_013_0065_014_0216_032_0067_015_0068_016_0069_017_0070_018_0020_020_0024_024_0002_002_0027_027_0028_028_0074_029_0215_006_0021_021_0022_022_0023_023_0026_026_0019_019_0217_025, 1101_003_1103_004_0687_005_0688_006_0689_007_0690_008_0692_009_0693_010_0694_011_0695_012_1028_016_1447_017_0315_019_0321_015_1119_018_0850_013_0812_014_0061_020⟩,
  ⟨3, 0003_003_0058_005_0007_007_0008_008_0060_009_0061_010_0062_011_0012_012_0064_013_0065_014_0219_032_0067_015_0068_016_0069_017_0070_018_0020_020_0024_024_0002_002_0027_027_0028_028_0074_029_0218_006_0021_021_0022_022_0023_023_0026_026_0019_019_0220_025, 1101_003_1103_004_0687_005_0688_006_0689_007_0690_008_0692_009_0693_010_0694_011_0695_012_1028_016_1447_017_0315_019_0321_015_1119_018_0850_013_0812_014_0063_020⟩,
  ⟨3, 0003_003_0058_005_0007_007_0008_008_0060_009_0061_010_0062_011_0012_012_0064_013_0065_014_0222_032_0067_015_0068_016_0069_017_0070_018_0020_020_0024_024_0002_002_0027_027_0028_028_0074_029_0221_006_0021_021_0022_022_0023_023_0026_026_0019_019_0223_025, 1101_003_1103_004_0687_005_0688_006_0689_007_0690_008_0692_009_0693_010_0694_011_0695_012_1028_016_1447_017_0315_019_0321_015_1119_018_0850_013_0812_014_0066_020⟩,
  ⟨1, 0003_003_0005_005_0007_007_0008_008_0009_009_0224_037_0010_010_0011_011_0012_012_0013_013_0014_014_0015_015_0016_016_0017_017_0018_018_0020_020_0024_024_0002_002_0027_027_0028_028_0029_029_0095_006_0021_021_0022_022_0023_023_0026_026_0019_019_0099_025, 1111_003_1108_004_0425_005_0404_006_0416_007_0418_008_0456_009_0428_010_0433_011_0395_012_1028_016_1447_017_0315_019_0321_015_1099_018_0850_013_0812_014_0002_020⟩,
  ⟨1, 0003_003_0005_005_0007_007_0008_008_0009_009_0010_010_0011_011_0012_012_0225_043_0013_013_0014_014_0015_015_0016_016_0017_017_0018_018_0020_020_0024_024_0002_002_0027_027_0028_028_0029_029_0095_006_0021_021_0022_022_0023_023_0026_026_0019_019_0099_025, 1111_003_1108_004_0425_005_0404_006_0416_007_0418_008_0456_009_0428_010_0433_011_0395_012_1028_016_1447_017_0315_019_0321_015_1099_018_0850_013_0812_014_0002_020⟩,
  ⟨3, 0003_003_0058_005_0007_007_0008_008_0060_009_0061_010_0062_011_0012_012_0064_013_0065_014_0226_032_0067_015_0068_016_0069_017_0070_018_0020_020_0024_024_0002_002_0027_027_0028_028_0074_029_0125_006_0021_021_0022_022_0023_023_0026_026_0019_019_0128_025, 1101_003_1103_004_0687_005_0688_006_0689_007_0690_008_0692_009_0693_010_0694_011_0695_012_1028_016_1447_017_0315_019_0321_015_1119_018_0850_013_0812_014_0014_020⟩,
  ⟨1, 0003_003_0005_005_0007_007_0008_008_0009_009_0010_010_0011_011_0012_012_0013_013_0227_040_0014_014_0015_015_0016_016_0017_017_0018_018_0020_020_0024_024_0002_002_0027_027_0028_028_0029_029_0095_006_0021_021_0022_022_0023_023_0026_026_0019_019_0099_025, 1111_003_1108_004_0425_005_0404_006_0416_007_0418_008_0456_009_0428_010_0433_011_0395_012_1028_016_1447_017_0315_019_0321_015_1099_018_0850_013_0812_014_0002_020⟩,
  ⟨3, 0003_003_0058_005_0007_007_0008_008_0060_009_0061_010_0062_011_0012_012_0064_013_0065_014_0228_032_0067_015_0068_016_0069_017_0070_018_0020_020_0024_024_0002_002_0027_027_0028_028_0074_029_0125_006_0021_021_0022_022_0023_023_0026_026_0019_019_0128_025, 1101_003_1103_004_0687_005_0688_006_0689_007_0690_008_0692_009_0693_010_0694_011_0695_012_1028_016_1447_017_0315_019_0321_015_1119_018_0850_013_0812_014_0014_020⟩,
  ⟨3, 0003_003_0058_005_0007_007_0008_008_0060_009_0061_010_0062_011_0012_012_0064_013_0065_014_0230_032_0067_015_0068_016_0069_017_0070_018_0020_020_0024_024_0002_002_0027_027_0028_028_0074_029_0229_006_0021_021_0022_022_0023_023_0026_026_0019_019_0231_025, 1101_003_1103_004_0687_005_0688_006_0689_007_0690_008_0692_009_0693_010_0694_011_0695_012_1028_016_1447_017_0315_019_0321_015_1119_018_0850_013_0812_014_0070_020⟩,
  ⟨3, 0003_003_0058_005_0007_007_0008_008_0060_009_0061_010_0062_011_0012_012_0064_013_0065_014_0232_032_0067_015_0068_016_0069_017_0070_018_0020_020_0024_024_0002_002_0027_027_0028_028_0074_029_0125_006_0021_021_0022_022_0023_023_0026_026_0019_019_0128_025, 1101_003_1103_004_0687_005_0688_006_0689_007_0690_008_0692_009_0693_010_0694_011_0695_012_1028_016_1447_017_0315_019_0321_015_1119_018_0850_013_0812_014_0014_020⟩]

/-- Parse states from 64 on. -/
def states1 : Array StateRow := #[
  ⟨3, 0003_003_0058_005_0007_007_0008_008_0060_009_0061_010_0062_011_0012_012_0064_013_0065_014_0234_032_0067_015_0068_016_0069_017_0070_018_0020_020_0024_024_0002_002_0027_027_0028_028_0074_029_0233_006_0021_021_0022_022_0023_023_0026_026_0019_019_0235_025, 1101_003_1103_004_0687_005_0688_006_0689_007_0690_008_0692_009_0693_010_0694_011_0695_012_1028_016_1447_017_0315_019_0321_015_1119_018_0850_013_0812_014_0020_020⟩,
  ⟨3, 0003_003_0058_005_0007_007_0008_008_0060_009_0061_010_0062_011_0012_012_0064_013_0065_014_0237_032_0067_015_0068_016_0069_017_0070_018_0020_020_0024_024_0002_002_0027_027_0028_028_0074_029_0236_006_0021_021_0022_022_0023_023_0026_026_0019_019_0238_025, 1101_003_1103_004_0687_005_0688_006_0689_007_0690_008_0692_009_0693_010_0694_011_0695_012_1028_016_1447_017_0315_019_0321_015_1119_018_0850_013_0812_014_0072_020⟩,
  ⟨3, 0003_003_0058_005_0007_007_0008_008_0060_009_0061_010_0062_011_0012_012_0064_013_0065_014_0239_032_0067_015_0068_016_0069_017_0070_018_0020_020_0024_024_0002_002_0027_027_0028_028_0074_029_0125_006_0021_021_0022_022_0023_023_0026_026_0019_019_0128_025, 1101_003_1103_004_0687_005_0688_006_0689_007_0690_008_0692_009_0693_010_0694_011_0695_012_1028_016_1447_017_0315_019_0321_015_1119_018_0850_013_0812_014_0014_020⟩,
  ⟨3, 0003_003_0058_005_0007_007_0008_008_0060_009_0061_010_0062_011_0012_012_0064_013_0065_014_0241_032_0067_015_0068_016_0069_017_0070_018_0020_020_0024_024_0002_002_0027_027_0028_028_0074_029_0240_006_0021_021_0022_022_0023_023_0026_026_0019_019_0242_025, 1101_003_1103_004_0687_005_0688_006_0689_007_0690_008_0692_009_0693_010_0694_011_0695_012_1028_016_1447_017_0315_019_0321_015_1119_018_0850_013_0812_014_0074_020⟩,
  ⟨1, 0003_003_0005_005_0007_007_0008_008_0009_009_0243_037_0010_010_0011_011_0012_012_0013_013_0014_014_0015_015_0016_016_0017_017_0018_018_0020_020_0024_024_0002_002_0027_027_0028_028_0029_029_0095_006_0021_021_0022_022_0023_023_0026_026_0019_019_0099_025, 1111_003_1108_004_0425_005_0404_006_0416_007_0418_008_0456_009_0428_010_0433_011_0395_012_1028_016_1447_017_0315_019_0321_015_1099_018_0850_013_0812_014_0002_020⟩,
  ⟨1, 0003_003_0005_005_0007_007_0008_008_0009_009_0010_010_0011_011_0012_012_0013_013_0244_040_0014_014_0015_015_0016_016_0017_017_0018_018_0020_020_0024_024_0002_002_0027_027_0028_028_0029_029_0095_006_0021_021_0022_022_0023_023_0026_026_0019_019_0099_025, 1111_003_1108_004_0425_005_0404_006_0416_007_0418_008_0456_009_0428_010_0433_011_0395_012_1028_016_1447_017_0315_019_0321_015_1099_018_0850_013_0812_014_0002_020⟩,
  ⟨3, 0003_003_0058_005_0007_007_0008_008_0060_009_0061_010_0062_011_0012_012_0064_013_0065_014_0245_032_0067_015_0068_016_0069_017_0070_018_0020_020_0024_024_0002_002_0027_027_0028_028_0074_029_0125_006_0021_021_0022_022_0023_023_0026_026_0019_019_0128_025, 1101_003_1103_004_0687_005_0688_006_0689_007_0690_008_0692_009_0693_010_0694_011_0695_012_1028_016_1447_017_0315_019_0321_015_1119_018_0850_013_0812_014_0014_020⟩,
  ⟨3, 0003_003_0058_005_0007_007_0008_008_0060_009_0061_010_0062_011_0012_012_0064_013_0065_014_0246_032_0067_015_0068_016_0069_017_0070_018_0020_020_0024_024_0002_002_0027_027_0028_028_0074_029_0125_006_0021_021_0022_022_0023_023_0026_026_0019_019_0128_025, 1101_003_1103_004_0687_005_0688_006_0689_007_0690_008_0692_009_0693_010_0694_011_0695_012_1028_016_1447_017_0315_019_0321_015_1119_018_0850_013_0812_014_0014_020⟩,
  ⟨3, 0003_003_0058_005_0007_007_0008_008_0060_009_0061_010_0062_011_0012_012_0064_013_0065_014_0247_032_0067_015_0068_016_0069_017_0070_018_0020_020_0024_024_0002_002_0027_027_0028_028_0074_029_0125_006_0021_021_0022_022_0023_023_0026_026_0019_019_0128_025, 1101_003_1103_004_0687_005_0688_006_0689_007_0690_008_0692_009_0693_010_0694_011_0695_012_1028_016_1447_017_0315_019_0321_015_1119_018_0850_013_0812_014_0014_020⟩,
  ⟨3, 0003_003_0058_005_0007_007_0008_008_0060_009_0061_010_0062_011_0012_012_0064_013_0065_014_0249_032_0067_015_0068_016_0069_017_0070_018_0020_020_0024_024_0002_002_0027_027_0028_028_0074_029_0248_006_0021_021_0022_022_0023_023_0026_026_0019_019_0250_025, 1101_003_1103_004_0687_005_0688_006_0689_007_0690_008_0692_009_0693_010_0694_011_0695_012_1028_016_1447_017_0315_019_0321_015_1119_018_0850_013_0812_014_0076_020⟩,
  ⟨3, 0003_003_0058_005_0007_007_0008_008_0060_009_0061_010_0062_011_0012_012_0064_013_0065_014_0251_032_0067_015_0068_016_0069_017_0070_018_0020_020_0024_024_0002_002_0027_027_0028_028_0074_029_0125_006_0021_021_0022_022_0023_023_0026_026_0019_019_0128_025, 1101_003_1103_004_0687_005_0688_006_0689_007_0690_008_0692_009_0693_010_0694_011_0695_012_1028_016_1447_017_0315_019_0321_015_1119_018_0850_013_0812_014_0014_020⟩,
  ⟨3, 0003_003_0058_005_0007_007_0008_008_0060_009_0061_010_0062_011_0012_012_0064_013_0065_014_0253_032_0067_015_0068_016_0069_017_0070_018_0020_020_0024_024_0002_002_0027_027_0028_028_0074_029_0252_006_0021_021_0022_022_0023_023_0026_026_0019_019_0254_025, 1101_003_1103_004_0687_005_0688_006_0689_007_0690_008_0692_009_0693_010_0694_011_0695_012_1028_016_1447_017_0315_019_0321_015_1119_018_0850_013_0812_014_0077_020⟩,
  ⟨3, 0003_003_0058_005_0007_007_0008_008_0060_009_0061_010_0062_011_0012_012_0064_013_0065_014_0255_032_0067_015_0068_016_0069_017_0070_018_0020_020_0024_024_0002_002_0027_027_0028_028_0074_029_0125_006_0021_021_0022_022_0023_023_0026_026_0019_019_0128_025, 1101_003_1103_004_0687_005_0688_006_0689_007_0690_008_0692_009_0693_010_0694_011_0695_012_1028_016_1447_017_0315_019_0321_015_1119_018_0850_013_0812_014_0014_020⟩,
  ⟨3, 0003_003_0058_005_0007_007_0008_008_0060_009_0061_010_0062_011_0012_012_0064_013_0065_014_0256_032_0067_015_0068_016_0069_017_0070_018_0020_020_0024_024_0002_002_0027_027_0028_028_0074_029_0125_006_0021_021_0022_022_0023_023_0026_026_0019_019_0128_025, 1101_003_1103_004_0687_005_0688_006_0689_007_0690_008_0692_009_0693_010_0694_011_0695_012_1028_016_1447_017_0315_019_0321_015_1119_018_0850_013_0812_014_0014_020⟩,
  ⟨3, 0003_003_0058_005_0007_007_0008_008_0060_009_0061_010_0062_011_0012_012_0064_013_0065_014_0258_032_0067_015_0068_016_0069_017_0070_018_0020_020_0024_024_0002_002_0027_027_0028_028_0074_029_0257_006_0021_021_0022_022_0023_023_0026_026_0019_019_0259_025, 1101_003_1103_004_0687_005_0688_006_0689_007_0690_008_0692_009_0693_010_0694_011_0695_012_1028_016_1447_017_0315_019_0321_015_1119_018_0850_013_0812_014_0079_020⟩,
  ⟨3, 0003_003_0058_005_0007_007_0008_008_0060_009_0061_010_0062_011_0012_012_0064_013_0065_014_0260_032_0067_015_0068_016_0069_017_0070_018_0020_020_0024_024_0002_002_0027_027_0028_028_0074_029_0125_006_0021_021_0022_022_0023_023_0026_026_0019_019_0128_025, 1101_003_1103_004_0687_005_0688_006_0689_007_0690_008_0692_009_0693_010_0694_011_0695_012_1028_016_1447_017_0315_019_0321_015_1119_018_0850_013_0812_014_0014_020⟩,
  ⟨3, 0003_003_0058_005_0007_007_0008_008_0060_009_0061_010_0062_011_0012_012_0064_013_0065_014_0261_032_0067_015_0068_016_0069_017_0070_018_0020_020_0024_024_0002_002_0027_027_0028_028_0074_029_0125_006_0021_021_0022_022_0023_023_0026_026_0019_019_0128_025, 1101_003_1103_004_0687_005_0688_006_0689_007_0690_008_0692_009_0693_010_0694_011_0695_012_1028_016_1447_017_0315_019_0321_015_1119_018_0850_013_0812_014_0014_020⟩,
  ⟨3, 0003_003_0058_005_0007_007_0008_008_0060_009_0061_010_0062_011_0012_012_0064_013_0065_014_0262_032_0067_015_0068_016_0069_017_0070_018_0020_020_0024_024_0002_002_0027_027_0028_028_0074_029_0125_006_0021_021_0022_022_0023_023_0026_026_0019_019_0128_025, 1101_003_1103_004_0687_005_0688_006_0689_007_0690_008_0692_009_0693_010_0694_011_0695_012_1028_016_1447_017_0315_019_0321_015_1119_018_0850_013_0812_014_0014_020⟩,
  ⟨3, 0003_003_0058_005_0007_007_0008_008_0060_009_0061_010_0062_011_0012_012_0064_013_0065_014_0264_032_0067_015_0068_016_0069_017_0070_018_0020_020_0024_024_0002_002_0027_027_0028_028_0074_029_0263_006_0021_021_0022_022_0023_023_0026_026_0019_019_0265_025, 1101_003_1103_004_0687_005_0688_006_0689_007_0690_008_0692_009_0693_010_0694_011_0695_012_1028_016_1447_017_0315_019_0321_015_1119_018_0850_013_0812_014_0083_020⟩,
  ⟨3, 0003_003_0058_005_0007_007_0008_008_0060_009_0061_010_0062_011_0012_012_0064_013_0065_014_0266_032_0067_015_0068_016_0069_017_0070_018_0020_020_0024_024_0002_002_0027_027_0028_028_0074_029_0125_006_0021_021_0022_022_0023_023_0026_026_0019_019_0128_025, 1101_003_1103_004_0687_005_0688_006_0689_007_0690_008_0692_009_0693_010_0694_011_0695_012_1028_016_1447_017_0315_019_0321_015_1119_018_0850_013_0812_014_0014_020⟩,
  ⟨3, 0003_003_0058_005_0007_007_0008_008_0060_009_0061_010_0062_011_0012_012_0064_013_0065_014_0268_032_0067_015_0068_016_0069_017_0070_018_0020_020_0024_024_0002_002_0027_027_0028_028_0074_029_0267_006_0021_021_0022_022_0023_023_0026_026_0019_019_0269_025, 1101_003_1103_004_0687_005_0688_006_0689_007_0690_008_0692_009_0693_010_0694_011_0695_012_1028_016_1447_017_0315_019_0321_015_1119_018_0850_013_0812_014_0086_020⟩,
  ⟨3, 0003_003_0058_005_0007_007_0008_008_0060_009_0061_010_0062_011_0012_012_0064_013_0065_014_0271_032_0067_015_0068_016_0069_017_0070_018_0020_020_0024_024_0002_002_0027_027_0028_028_0074_029_0270_006_0021_021_0022_022_0023_023_0026_026_0019_019_0272_025, 1101_003_1103_004_0687_005_0688_006_0689_007_0690_008_0692_009_0693_010_0694_011_0695_012_1028_016_1447_017_0315_019_0321_015_1119_018_0850_013_0812_014_0087_020⟩,
  ⟨3, 0003_003_0058_005_0007_007_0008_008_0060_009_0061_010_0062_011_0012_012_0064_013_0065_014_0273_032_0067_015_0068_016_0069_017_0070_018_0020_020_0024_024_0002_002_0027_027_0028_028_0074_029_0125_006_0021_021_0022_022_0023_023_0026_026_0019_019_0128_025, 1101_003_1103_004_0687_005_0688_006_0689_007_0690_008_0692_009_0693_010_0694_011_0695_012_1028_016_1447_017_0315_019_0321_015_1119_018_0850_013_0812_014_0014_020⟩,
  ⟨3, 0003_003_0058_005_0007_007_0008_008_0060_009_0061_010_0062_011_0012_012_0064_013_0065_014_0274_032_0067_015_0068_016_0069_017_0070_018_0020_020_0024_024_0002_002_0027_027_0028_028_0074_029_0125_006_0021_021_0022_022_0023_023_0026_026_0019_019_0128_025, 1101_003_1103_004_0687_005_0688_006_0689_007_0690_008_0692_009_0693_010_0694_011_0695_012_1028_016_1447_017_0315_019_0321_015_1119_018_0850_013_0812_014_0014_020⟩,
  ⟨3, 0003_003_0058_005_0007_007_0008_008_0060_009_0061_010_0062_011_0012_012_0064_013_0065_014_0276_032_0067_015_0068_016_0069_017_0070_018_0020_020_0024_024_0002_002_0027_027_0028_028_0074_029_0275_006_0021_021_0022_022_0023_023_0026_026_0019_019_0277_025, 1101_003_1103_004_0687_005_0688_006_0689_007_0690_008_0692_009_0693_010_0694_011_0695_012_1028_016_1447_017_0315_019_0321_015_1119_018_0850_013_0812_014_0089_020⟩,
  ⟨3, 0003_003_0058_005_0007_007_0008_008_0060_009_0061_010_0062_011_0012_012_0064_013_0065_014_0278_032_0067_015_0068_016_0069_017_0070_018_0020_020_0024_024_0002_002_0027_027_0028_028_0074_029_0125_006_0021_021_0022_022_0023_023_0026_026_0019_019_0128_025, 1101_003_1103_004_0687_005_0688_006_0689_007_0690_008_0692_009_0693_010_0694_011_0695_012_1028_016_1447_017_0315_019_0321_015_1119_018_0850_013_0812_014_0014_020⟩,
  ⟨3, 0003_003_0058_005_0007_007_0008_008_0060_009_0061_010_0062_011_0012_012_0064_013_0065_014_0280_032_0067_015_0068_016_0069_017_0070_018_0020_020_0024_024_0002_002_0027_027_0028_028_0074_029_0279_006_0021_021_0022_022_0023_023_0026_026_0019_019_0281_025, 1101_003_1103_004_0687_005_0688_006_0689_007_0690_008_0692_009_0693_010_0694_011_0695_012_1028_016_1447_017_0315_019_0321_015_1119_018_0850_013_0812_014_0080_020⟩,
  ⟨3, 0003_003_0058_005_0007_007_0008_008_0060_009_0061_010_0062_011_0012_012_0064_013_0065_014_0282_032_0067_015_0068_016_0069_017_0070_018_0020_020_0024_024_0002_002_0027_027_0028_028_0074_029_0125_006_0021_021_0022_022_0023_023_0026_026_0019_019_0128_025, 1101_003_1103_004_0687_005_0688_006_0689_007_0690_008_0692_009_0693_010_0694_011_0695_012_1028_016_1447_017_0315_019_0321_015_1119_018_0850_013_0812_014_0014_020⟩,
  ⟨3, 0003_003_0058_005_0007_007_0008_008_0060_009_0061_010_0062_011_0012_012_0064_013_0065_014_0284_032_0067_015_0068_016_0069_017_0070_018_0020_020_0024_024_0002_002_0027_027_0028_028_0074_029_0283_006_0021_021_0022_022_0023_023_0026_026_0019_019_0285_025, 1101_003_1103_004_0687_005_0688_006_0689_007_0690_008_0692_009_0693_010_0694_011_0695_012_1028_016_1447_017_0315_019_0321_015_1119_018_0850_013_0812_014_0093_020⟩,
  ⟨3, 0003_003_0058_005_0007_007_0008_008_0060_009_0061_010_0062_011_0012_012_0064_013_0065_014_0286_032_0067_015_0068_016_0069_017_0070_018_0020_020_0024_024_0002_002_0027_027_0028_028_0074_029_0125_006_0021_021_0022_022_0023_023_0026_026_0019_019_0128_025, 1101_003_1103_004_0687_005_0688_006_0689_007_0690_008_0692_009_0693_010_0694_011_0695_012_1028_016_1447_017_0315_019_0321_015_1119_018_0850_013_0812_014_0014_020⟩,
  ⟨3, 0003_003_0058_005_0007_007_0008_008_0060_009_0061_010_0062_011_0012_012_0064_013_0065_014_0288_032_0067_015_0068_016_0069_017_0070_018_0020_020_0024_024_0002_002_0027_027_0028_028_0074_029_0287_006_0021_021_0022_022_0023_023_0026_026_0019_019_0289_025, 1101_003_1103_004_0687_005_0688_006_0689_007_0690_008_0692_009_0693_010_0694_011_0695_012_1028_016_1447_017_0315_019_0321_015_1119_018_0850_013_0812_014_0096_020⟩,
  ⟨3, 0003_003_0058_005_0007_007_0008_008_0060_009_0061_010_0062_011_0012_012_0064_013_0065_014_0291_032_0067_015_0068_016_0069_017_0070_018_0020_020_0024_024_0002_002_0027_027_0028_028_0074_029_0290_006_0021_021_0022_022_0023_023_0026_026_0019_019_0292_025, 1101_003_1103_004_0687_005_0688_006_0689_007_0690_008_0692_009_0693_010_0694_011_0695_012_1028_016_1447_017_0315_019_0321_015_1119_018_0850_013_0812_014_0097_020⟩,
  ⟨3, 0003_003_0058_005_0007_007_0008_008_0060_009_0061_010_0062_011_0012_012_0064_013_0065_014_0293_032_0067_015_0068_016_0069_017_0070_018_0020_020_0024_024_0002_002_0027_027_0028_028_0074_029_0125_006_0021_021_0022_022_0023_023_0026_026_0019_019_0128_025, 1101_003_1103_004_0687_005_0688_006_0689_007_0690_008_0692_009_0693_010_0694_011_0695_012_1028_016_1447_017_0315_019_0321_015_1119_018_0850_013_0812_014_0014_020⟩,
  ⟨3, 0003_003_0058_005_0007_007_0008_008_0060_009_0061_010_0062_011_0012_012_0064_013_0065_014_0294_032_0067_015_0068_016_0069_017_0070_018_0020_020_0024_024_0002_002_0027_027_0028_028_0074_029_0125_006_0021_021_0022_022_0023_023_0026_026_0019_019_0128_025, 1101_003_1103_004_0687_005_0688_006_0689_007_0690_008_0692_009_0693_010_0694_011_0695_012_1028_016_1447_017_0315_019_0321_015_1119_018_0850_013_0812_014_0014_020⟩,
  ⟨3, 0003_003_0058_005_0007_007_0008_008_0060_009_0061_010_0062_011_0012_012_0064_013_0065_014_0296_032_0067_015_0068_016_0069_017_0070_018_0020_020_0024_024_0002_002_0027_027_0028_028_0074_029_0295_006_0021_021_0022_022_0023_023_0026_026_0019_019_0297_025, 1101_003_1103_004_0687_005_0688_006_0689_007_0690_008_0692_009_0693_010_0694_011_0695_012_1028_016_1447_017_0315_019_0321_015_1119_018_0850_013_0812_014_0099_020⟩,
  ⟨3, 0003_003_0058_005_0007_007_0008_008_0060_009_0061_010_0062_011_0012_012_0064_013_0065_014_0298_032_0067_015_0068_016_0069_017_0070_018_0020_020_0024_024_0002_002_0027_027_0028_028_0074_029_0125_006_0021_021_0022_022_0023_023_0026_026_0019_019_0128_025, 1101_003_1103_004_0687_005_0688_006_0689_007_0690_008_0692_009_0693_010_0694_011_0695_012_1028_016_1447_017_0315_019_0321_015_1119_018_0850_013_0812_014_0014_020⟩,
  ⟨3, 0003_003_0058_005_0007_007_0008_008_0060_009_0061_010_0062_011_0012_012_0064_013_0065_014_0300_032_0067_015_0068_016_0069_017_0070_018_0020_020_0024_024_0002_002_0027_027_0028_028_0074_029_0299_006_0021_021_0022_022_0023_023_0026_026_0019_019_0301_025, 1101_003_1103_004_0687_005_0688_006_0689_007_0690_008_0692_009_0693_010_0694_011_0695_012_1028_016_1447_017_0315_019_0321_015_1119_018_0850_013_0812_014_0022_020⟩,
  ⟨3, 0003_003_0058_005_0007_007_0008_008_0060_009_0061_010_0062_011_0012_012_0064_013_0065_014_0302_032_0067_015_0068_016_0069_017_0070_018_0020_020_0024_024_0002_002_0027_027_0028_028_0074_029_0125_006_0021_021_0022_022_0023_023_0026_026_0019_019_0128_025, 1101_003_1103_004_0687_005_0688_006_0689_007_0690_008_0692_009_0693_010_0694_011_0695_012_1028_016_1447_017_0315_019_0321_015_1119_018_0850_013_0812_014_0014_020⟩,
  ⟨3, 0003_003_0058_005_0007_007_0008_008_0060_009_0061_010_0062_011_0012_012_0064_013_0065_014_0304_032_0067_015_0068_016_0069_017_0070_018_0020_020_0024_024_0002_002_0027_027_0028_028_0074_029_0303_006_0021_021_0022_022_0023_023_0026_026_0019_019_0305_025, 1101_003_1103_004_0687_005_0688_006_0689_007_0690_008_0692_009_0693_010_0694_011_0695_012_1028_016_1447_017_0315_019_0321_015_1119_018_0850_013_0812_014_0103_020⟩,
  ⟨3, 0003_003_0058_005_0007_007_0008_008_0060_009_0061_010_0062_011_0012_012_0064_013_0065_014_0306_032_0067_015_0068_016_0069_017_0070_018_0020_020_0024_024_0002_002_0027_027_0028_028_0074_029_0125_006_0021_021_0022_022_0023_023_0026_026_0019_019_0128_025, 1101_003_1103_004_0687_005_0688_006_0689_007_0690_008_0692_009_0693_010_0694_011_0695_012_1028_016_1447_017_0315_019_0321_015_1119_018_0850_013_0812_014_0014_020⟩,
  ⟨3, 0003_003_0058_005_0007_007_0008_008_0060_009_0061_010_0062_011_0012_012_0064_013_0065_014_0308_032_0067_015_0068_016_0069_017_0070_018_0020_020_0024_024_0002_002_0027_027_0028_028_0074_029_0307_006_0021_021_0022_022_0023_023_0026_026_0019_019_0309_025, 1101_003_1103_004_0687_005_0688_006_0689_007_0690_008_0692_009_0693_010_0694_011_0695_012_1028_016_1447_017_0315_019_0321_015_1119_018_0850_013_0812_014_0106_020⟩,
  ⟨3, 0003_003_0058_005_0007_007_0008_008_0060_009_0061_010_0062_011_0012_012_0064_013_0065_014_0311_032_0067_015_0068_016_0069_017_0070_018_0020_020_0024_024_0002_002_0027_027_0028_028_0074_029_0310_006_0021_021_0022_022_0023_023_0026_026_0019_019_0312_025, 1101_003_1103_004_0687_005_0688_006_0689_007_0690_008_0692_009_0693_010_0694_011_0695_012_1028_016_1447_017_0315_019_0321_015_1119_018_0850_013_0812_014_0107_020⟩,
  ⟨3, 0003_003_0058_005_0007_007_0008_008_0060_009_0061_010_0062_011_0012_012_0064_013_0065_014_0313_032_0067_015_0068_016_0069_017_0070_018_0020_020_0024_024_0002_002_0027_027_0028_028_0074_029_0125_006_0021_021_0022_022_0023_023_0026_026_0019_019_0128_025, 1101_003_1103_004_0687_005_0688_006_0689_007_0690_008_0692_009_0693_010_0694_011_0695_012_1028_016_1447_017_0315_019_0321_015_1119_018_0850_013_0812_014_0014_020⟩,
  ⟨3, 0003_003_0058_005_0007_007_0008_008_0060_009_0061_010_0062_011_0012_012_0064_013_0065_014_0314_032_0067_015_0068_016_0069_017_0070_018_0020_020_0024_024_0002_002_0027_027_0028_028_0074_029_0125_006_0021_021_0022_022_0023_023_0026_026_0019_019_0128_025, 1101_003_1103_004_0687_005_0688_006_0689_007_0690_008_0692_009_0693_010_0694_011_0695_012_1028_016_1447_017_0315_019_0321_015_1119_018_0850_013_0812_014_0014_020⟩,
  ⟨3, 0003_003_0058_005_0007_007_0008_008_0060_009_0061_010_0062_011_0012_012_0064_013_0065_014_0316_032_0067_015_0068_016_0069_017_0070_018_0020_020_0024_024_0002_002_0027_027_0028_028_0074_029_0315_006_0021_021_0022_022_0023_023_0026_026_0019_019_0317_025, 1101_003_1103_004_0687_005_0688_006_0689_007_0690_008_0692_009_0693_010_0694_011_0695_012_1028_016_1447_017_0315_019_0321_015_1119_018_0850_013_0812_014_0109_020⟩,
  ⟨3, 0003_003_0058_005_0007_007_0008_008_0060_009_0061_010_0062_011_0012_012_0064_013_0065_014_0318_032_0067_015_0068_016_0069_017_0070_018_0020_020_0024_024_0002_002_0027_027_0028_028_0074_029_0125_006_0021_021_0022_022_0023_023_0026_026_0019_019_0128_025, 1101_003_1103_004_0687_005_0688_006_0689_007_0690_008_0692_009_0693_010_0694_011_0695_012_1028_016_1447_017_0315_019_0321_015_1119_018_0850_013_0812_014_0014_020⟩,
  ⟨3, 0003_003_0058_005_0007_007_0008_008_0060_009_0061_010_0062_011_0012_012_0064_013_0065_014_0320_032_0067_015_0068_016_0069_017_0070_018_0020_020_0024_024_0002_002_0027_027_0028_028_0074_029_0319_006_0021_021_0022_022_0023_023_0026_026_0019_019_0321_025, 1101_003_1103_004_0687_005_0688_006_0689_007_0690_008_0692_009_0693_010_0694_011_0695_012_1028_016_1447_017_0315_019_0321_015_1119_018_0850_013_0812_014_0024_020⟩,
  ⟨3, 0003_003_0058_005_0007_007_0008_008_0060_009_0061_010_0062_011_0012_012_0064_013_0065_014_0322_032_0067_015_0068_016_0069_017_0070_018_0020_020_0024_024_0002_002_0027_027_0028_028_0074_029_0125_006_0021_021_0022_022_0023_023_0026_026_0019_019_0128_025, 1101_003_1103_004_0687_005_0688_006_0689_007_0690_008_0692_009_0693_010_0694_011_0695_012_1028_016_1447_017_0315_019_0321_015_1119_018_0850_013_0812_014_0014_020⟩,
  ⟨3, 0003_003_0058_005_0007_007_0008_008_0060_009_0061_010_0062_011_0012_012_0064_013_0065_014_0324_032_0067_015_0068_016_0069_017_0070_018_0020_020_0024_024_0002_002_0027_027_0028_028_0074_029_0323_006_0021_021_0022_022_0023_023_0026_026_0019_019_0325_025, 1101_003_1103_004_0687_005_0688_006_0689_007_0690_008_0692_009_0693_010_0694_011_0695_012_1028_016_1447_017_0315_019_0321_015_1119_018_0850_013_0812_014_0113_020⟩,
  ⟨3, 0003_003_0058_005_0007_007_0008_008_0060_009_0061_010_0062_011_0012_012_0064_013_0065_014_0326_032_0067_015_0068_016_0069_017_0070_018_0020_020_0024_024_0002_002_0027_027_0028_028_0074_029_0125_006_0021_021_0022_022_0023_023_0026_026_0019_019_0128_025, 1101_003_1103_004_0687_005_0688_006_0689_007_0690_008_0692_009_0693_010_0694_011_0695_012_1028_016_1447_017_0315_019_0321_015_1119_018_0850_013_0812_014_0014_020⟩,
  ⟨3, 0003_003_0058_005_0007_007_0008_008_0060_009_0061_010_0062_011_0012_012_0064_013_0065_014_0328_032_0067_015_0068_016_0069_017_0070_018_0020_020_0024_024_0002_002_0027_027_0028_028_0074_029_0327_006_0021_021_0022_022_0023_023_0026_026_0019_019_0329_025, 1101_003_1103_004_0687_005_0688_006_0689_007_0690_008_0692_009_0693_010_0694_011_0695_012_1028_016_1447_017_0315_019_0321_015_1119_018_0850_013_0812_014_0116_020⟩,
  ⟨3, 0003_003_0058_005_0007_007_0008_008_0060_009_0061_010_0062_011_0012_012_0064_013_0065_014_0331_032_0067_015_0068_016_0069_017_0070_018_0020_020_0024_024_0002_002_0027_027_0028_028_0074_029_0330_006_0021_021_0022_022_0023_023_0026_026_0019_019_0332_025, 1101_003_1103_004_0687_005_0688_006_0689_007_0690_008_0692_009_0693_010_0694_011_0695_012_1028_016_1447_017_0315_019_0321_015_1119_018_0850_013_0812_014_0117_020⟩,
  ⟨3, 0003_003_0058_005_0007_007_0008_008_0060_009_0061_010_0062_011_0012_012_0064_013_0065_014_0333_032_0067_015_0068_016_0069_017_0070_018_0020_020_0024_024_0002_002_0027_027_0028_028_0074_029_0125_006_0021_021_0022_022_0023_023_0026_026_0019_019_0128_025, 1101_003_1103_004_0687_005_0688_006_0689_007_0690_008_0692_009_0693_010_0694_011_0695_012_1028_016_1447_017_0315_019_0321_015_1119_018_0850_013_0812_014_0014_020⟩,
  ⟨3, 0003_003_0058_005_0007_007_0008_008_0060_009_0061_010_0062_011_0012_012_0064_013_0065_014_0334_032_0067_015_0068_016_0069_017_0070_018_0020_020_0024_024_0002_002_0027_027_0028_028_0074_029_0125_006_0021_021_0022_022_0023_023_0026_026_0019_019_0128_025, 1101_003_1103_004_0687_005_0688_006_0689_007_0690_008_0692_009_0693_010_0694_011_0695_012_1028_016_1447_017_0315_019_0321_015_1119_018_0850_013_0812_014_0014_020⟩,
  ⟨3, 0003_003_0058_005_0007_007_0008_008_0060_009_0061_010_0062_011_0012_012_0064_013_0065_014_0336_032_0067_015_0068_016_0069_017_0070_018_0020_020_0024_024_0002_002_0027_027_0028_028_0074_029_0335_006_0021_021_0022_022_0023_023_0026_026_0019_019_0337_025, 1101_003_1103_004_0687_005_0688_006_0689_007_0690_008_0692_009_0693_010_0694_011_0695_012_1028_016_1447_017_0315_019_0321_015_1119_018_0850_013_0812_014_0119_020⟩,
  ⟨3, 0003_003_0058_005_0007_007_0008_008_0060_009_0061_010_0062_011_0012_012_0064_013_0065_014_0338_032_0067_015_0068_016_0069_017_0070_018_0020_020_0024_024_0002_002_0027_027_0028_028_0074_029_0125_006_0021_021_0022_022_0023_023_0026_026_0019_019_0128_025, 1101_003_1103_004_0687_005_0688_006_0689_007_0690_008_0692_009_0693_010_0694_011_0695_012_1028_016_1447_017_0315_019_0321_015_1119_018_0850_013_0812_014_0014_020⟩,
  ⟨3, 0003_003_0058_005_0007_007_0008_008_0060_009_0061_010_0062_011_0012_012_0064_013_0065_014_0340_032_0067_015_0068_016_0069_017_0070_018_0020_020_0024_024_0002_002_0027_027_0028_028_0074_029_0339_006_0021_021_0022_022_0023_023_0026_026_0019_019_0341_025, 1101_003_1103_004_0687_005_0688_006_0689_007_0690_008_0692_009_0693_010_0694_011_0695_012_1028_016_1447_017_0315_019_0321_015_1119_018_0850_013_0812_014_0027_020⟩,
  ⟨3, 0003_003_0058_005_0007_007_0008_008_0060_009_0061_010_0062_011_0012_012_0064_013_0065_014_0342_032_0067_015_0068_016_0069_017_0070_018_0020_020_0024_024_0002_002_0027_027_0028_028_0074_029_0125_006_0021_021_0022_022_0023_023_0026_026_0019_019_0128_025, 1101_003_1103_004_0687_005_0688_006_0689_007_0690_008_0692_009_0693_010_0694_011_0695_012_1028_016_1447_017_0315_019_0321_015_1119_018_0850_013_0812_014_0014_020⟩,
  ⟨3, 0003_003_0058_005_0007_007_0008_008_0060_009_0061_010_0062_011_0012_012_0064_013_0065_014_0344_032_0067_015_0068_016_0069_017_0070_018_0020_020_0024_024_0002_002_0027_027_0028_028_0074_029_0343_006_0021_021_0022_022_0023_023_0026_026_0019_019_0345_025, 1101_003_1103_004_0687_005_0688_006_0689_007_0690_008_0692_009_0693_010_0694_011_0695_012_1028_016_1447_017_0315_019_0321_015_1119_018_0850_013_0812_014_0123_020⟩,
  ⟨3, 0003_003_0058_005_0007_007_0008_008_0060_009_0061_010_0062_011_0012_012_0064_013_0065_014_0346_032_0067_015_0068_016_0069_017_0070_018_0020_020_0024_024_0002_002_0027_027_0028_028_0074_029_0125_006_0021_021_0022_022_0023_023_0026_026_0019_019_0128_025, 1101_003_1103_004_0687_005_0688_006_0689_007_0690_008_0692_009_0693_010_0694_011_0695_012_1028_016_1447_017_0315_019_0321_015_1119_018_0850_013_0812_014_0014_020⟩,
  ⟨3, 0003_003_0058_005_0007_007_0008_008_0060_009_0061_010_0062_011_0012_012_0064_013_0065_014_0348_032_0067_015_0068_016_0069_017_0070_018_0020_020_0024_024_0002_002_0027_027_0028_028_0074_029_0347_006_0021_021_0022_022_0023_023_0026_026_0019_019_0349_025, 1101_003_1103_004_0687_005_0688_006_0689_007_0690_008_0692_009_0693_010_0694_011_0695_012_1028_016_1447_017_0315_019_0321_015_1119_018_0850_013_0812_014_0126_020⟩,
  ⟨3, 0003_003_0058_005_0007_007_0008_008_0060_009_0061_010_0062_011_0012_012_0064_013_0065_014_0351_032_0067_015_0068_016_0069_017_0070_018_0020_020_0024_024_0002_002_0027_027_0028_028_0074_029_0350_006_0021_021_0022_022_0023_023_0026_026_0019_019_0352_025, 1101_003_1103_004_0687_005_0688_006_0689_007_0690_008_0692_009_0693_010_0694_011_0695_012_1028_016_1447_017_0315_019_0321_015_1119_018_0850_013_0812_014_0127_020⟩,
  ⟨3, 0003_003_0058_005_0007_007_0008_008_0060_009_0061_010_0062_011_0012_012_0064_013_0065_014_0353_032_0067_015_0068_016_0069_017_0070_018_0020_020_0024_024_0002_002_0027_027_0028_028_0074_029_0125_006_0021_021_0022_022_0023_023_0026_026_0019_019_0128_025, 1101_003_1103_004_0687_005_0688_006_0689_007_0690_008_0692_009_0693_010_0694_011_0695_012_1028_016_1447_017_0315_019_0321_015_1119_018_0850_013_0812_014_0014_020⟩,
  ⟨3, 0003_003_0058_005_0007_007_0008_008_0060_009_0061_010_0062_011_0012_012_0064_013_0065_014_0354_032_0067_015_0068_016_0069_017_0070_018_0020_020_0024_024_0002_002_0027_027_0028_028_0074_029_0125_006_0021_021_0022_022_0023_023_0026_026_0019_019_0128_025, 1101_003_1103_004_0687_005_0688_006_0689_007_0690_008_0692_009_0693_010_0694_011_0695_012_1028_016_1447_017_0315_019_0321_015_1119_018_0850_013_0812_014_0014_020⟩]

/-- Parse states from 128 on. -/
def states2 : Array StateRow := #[
  ⟨3, 0003_003_0058_005_0007_007_0008_008_0060_009_0061_010_0062_011_0012_012_0064_013_0065_014_0356_032_0067_015_0068_016_0069_017_0070_018_0020_020_0024_024_0002_002_0027_027_0028_028_0074_029_0355_006_0021_021_0022_022_0023_023_0026_026_0019_019_0357_025, 1101_003_1103_004_0687_005_0688_006_0689_007_0690_008_0692_009_0693_010_0694_011_0695_012_1028_016_1447_017_0315_019_0321_015_1119_018_0850_013_0812_014_0129_020⟩,
  ⟨3, 0003_003_0058_005_0007_007_0008_008_0060_009_0061_010_0062_011_0012_012_0064_013_0065_014_0358_032_0067_015_0068_016_0069_017_0070_018_0020_020_0024_024_0002_002_0027_027_0028_028_0074_029_0125_006_0021_021_0022_022_0023_023_0026_026_0019_019_0128_025, 1101_003_1103_004_0687_005_0688_006_0689_007_0690_008_0692_009_0693_010_0694_011_0695_012_1028_016_1447_017_0315_019_0321_015_1119_018_0850_013_0812_014_0014_020⟩,
  ⟨1, 0003_003_0005_005_0007_007_0008_008_0009_009_0359_037_0010_010_0011_011_0012_012_0013_013_0014_014_0015_015_0016_016_0017_017_0018_018_0020_020_0024_024_0002_002_0027_027_0028_028_0029_029_0095_006_0021_021_0022_022_0023_023_0026_026_0019_019_0099_025, 1111_003_1108_004_0425_005_0404_006_0416_007_0418_008_0456_009_0428_010_0433_011_0395_012_1028_016_1447_017_0315_019_0321_015_1099_018_0850_013_0812_014_0002_020⟩,
  ⟨1, 0003_003_0005_005_0007_007_0008_008_0009_009_0010_010_0011_011_0012_012_0360_043_0013_013_0014_014_0015_015_0016_016_0017_017_0018_018_0020_020_0024_024_0002_002_0027_027_0028_028_0029_029_0095_006_0021_021_0022_022_0023_023_0026_026_0019_019_0099_025, 1111_003_1108_004_0425_005_0404_006_0416_007_0418_008_0456_009_0428_010_0433_011_0395_012_1028_016_1447_017_0315_019_0321_015_1099_018_0850_013_0812_014_0002_020⟩,
  ⟨3, 0003_003_0058_005_0007_007_0008_008_0060_009_0061_010_0062_011_0012_012_0064_013_0065_014_0362_032_0067_015_0068_016_0069_017_0070_018_0020_020_0024_024_0002_002_0027_027_0028_028_0074_029_0361_006_0021_021_0022_022_0023_023_0026_026_0019_019_0363_025, 1101_003_1103_004_0687_005_0688_006_0689_007_0690_008_0692_009_0693_010_0694_011_0695_012_1028_016_1447_017_0315_019_0321_015_1119_018_0850_013_0812_014_0071_020⟩,
  ⟨3, 0003_003_0058_005_0007_007_0008_008_0060_009_0061_010_0062_011_0012_012_0064_013_0065_014_0364_032_0067_015_0068_016_0069_017_0070_018_0020_020_0024_024_0002_002_0027_027_0028_028_0074_029_0125_006_0021_021_0022_022_0023_023_0026_026_0019_019_0128_025, 1101_003_1103_004_0687_005_0688_006_0689_007_0690_008_0692_009_0693_010_0694_011_0695_012_1028_016_1447_017_0315_019_0321_015_1119_018_0850_013_0812_014_0014_020⟩,
  ⟨1, 0003_003_0005_005_0007_007_0008_008_0009_009_0010_010_0011_011_0012_012_0013_013_0014_014_0015_015_0016_016_0017_017_0018_018_0020_020_0024_024_0002_002_0027_027_0028_028_0029_029_0365_006_0021_021_0022_022_0023_023_0026_026_0019_019_0366_025, 1111_003_1108_004_0425_005_0404_006_0416_007_0418_008_0456_009_0428_010_0433_011_0395_012_1028_016_1447_017_0315_019_0321_015_1099_018_0850_013_0812_014_0012_020⟩,
  ⟨1, 0003_003_0058_005_0007_007_0008_008_0060_009_0368_044_0061_010_0062_011_0012_012_0064_013_0065_014_0067_015_0068_016_0069_017_0070_018_0020_020_0024_024_0002_002_0027_027_0028_028_0074_029_0367_006_0021_021_0022_022_0023_023_0026_026_0019_019_0369_025, 1101_003_1103_004_0687_005_0688_006_0689_007_0690_008_0692_009_0693_010_0694_011_0695_012_1028_016_1447_017_0315_019_0321_015_1119_018_0850_013_0812_014_0519_025⟩,
  ⟨1, 0003_003_0058_005_0007_007_0008_008_0060_009_0371_044_0061_010_0062_011_0012_012_0064_013_0065_014_0067_015_0068_016_0069_017_0070_018_0020_020_0024_024_0002_002_0027_027_0028_028_0074_029_0370_006_0021_021_0022_022_0023_023_0026_026_0019_019_0372_025, 1101_003_1103_004_0687_005_0688_006_0689_007_0690_008_0692_009_0693_010_0694_011_0695_012_1028_016_1447_017_0315_019_0321_015_1119_018_0850_013_0812_014_0530_025⟩,
  ⟨1, 0003_003_0005_005_0007_007_0008_008_0009_009_0010_010_0011_011_0012_012_0013_013_0014_014_0015_015_0016_016_0017_017_0018_018_0020_020_0024_024_0002_002_0027_027_0028_028_0029_029_0373_006_0021_021_0022_022_0023_023_0026_026_0019_019_0374_025, 1111_003_1108_004_0425_005_0404_006_0416_007_0418_008_0456_009_0428_010_0433_011_0395_012_1028_016_1447_017_0315_019_0321_015_1099_018_0850_013_0812_014_0047_020⟩,
  ⟨1, 0003_003_0005_005_0007_007_0008_008_0009_009_0376_044_0010_010_0011_011_0012_012_0013_013_0014_014_0015_015_0016_016_0017_017_0018_018_0020_020_0024_024_0002_002_0027_027_0028_028_0029_029_0375_006_0021_021_0022_022_0023_023_0026_026_0019_019_0377_025, 1111_003_1108_004_0425_005_0404_006_0416_007_0418_008_0456_009_0428_010_0433_011_0395_012_1028_016_1447_017_0315_019_0321_015_1099_018_0850_013_0812_014_0393_025⟩,
  ⟨1, 0003_003_0005_005_0007_007_0008_008_0009_009_0010_010_0011_011_0012_012_0013_013_0014_014_0015_015_0016_016_0017_017_0018_018_0020_020_0024_024_0002_002_0027_027_0028_028_0029_029_0378_006_0021_021_0022_022_0023_023_0026_026_0019_019_0379_025, 1111_003_1108_004_0425_005_0404_006_0416_007_0418_008_0456_009_0428_010_0433_011_0395_012_1028_016_1447_017_0315_019_0321_015_1099_018_0850_013_0812_014_0130_020⟩,
  ⟨1, 0003_003_0005_005_0007_007_0008_008_0009_009_0010_010_0011_011_0012_012_0013_013_0014_014_0015_015_0016_016_0017_017_0018_018_0020_020_0024_024_0002_002_0027_027_0028_028_0029_029_0380_006_0021_021_0022_022_0023_023_0026_026_0019_019_0381_025, 1111_003_1108_004_0425_005_0404_006_0416_007_0418_008_0456_009_0428_010_0433_011_0395_012_1028_016_1447_017_0315_019_0321_015_1099_018_0850_013_0812_014_0131_020⟩,
  ⟨1, 0003_003_0005_005_0007_007_0008_008_0009_009_0010_010_0011_011_0012_012_0013_013_0014_014_0015_015_0016_016_0017_017_0018_018_0020_020_0024_024_0002_002_0027_027_0028_028_0029_029_0382_006_0021_021_0022_022_0023_023_0026_026_0019_019_0383_025, 1111_003_1108_004_0425_005_0404_006_0416_007_0418_008_0456_009_0428_010_0433_011_0395_012_1028_016_1447_017_0315_019_0321_015_1099_018_0850_013_0812_014_0021_020⟩,
  ⟨1, 0003_003_0005_005_0007_007_0008_008_0009_009_0010_010_0011_011_0012_012_0013_013_0014_014_0015_015_0016_016_0017_017_0018_018_0020_020_0024_024_0002_002_0027_027_0028_028_0029_029_0384_006_0021_021_0022_022_0023_023_0026_026_0019_019_0385_025, 1111_003_1108_004_0425_005_0404_006_0416_007_0418_008_0456_009_0428_010_0433_011_0395_012_1028_016_1447_017_0315_019_0321_015_1099_018_0850_013_0812_014_0029_020⟩,
  ⟨1, 0003_003_0005_005_0007_007_0008_008_0009_009_0387_044_0010_010_0011_011_0012_012_0013_013_0014_014_0015_015_0016_016_0017_017_0018_018_0020_020_0024_024_0002_002_0027_027_0028_028_0029_029_0386_006_0021_021_0022_022_0023_023_0026_026_0019_019_0388_025, 1111_003_1108_004_0425_005_0404_006_0416_007_0418_008_0456_009_0428_010_0433_011_0395_012_1028_016_1447_017_0315_019_0321_015_1099_018_0850_013_0812_014_0406_025⟩,
  ⟨1, 0003_003_0005_005_0007_007_0008_008_0009_009_0390_044_0010_010_0011_011_0012_012_0013_013_0014_014_0015_015_0016_016_0017_017_0018_018_0020_020_0024_024_0002_002_0027_027_0028_028_0029_029_0389_006_0021_021_0022_022_0023_023_0026_026_0019_019_0391_025, 1111_003_1108_004_0425_005_0404_006_0416_007_0418_008_0456_009_0428_010_0433_011_0395_012_1028_016_1447_017_0315_019_0321_015_1099_018_0850_013_0812_014_0412_025⟩,
  ⟨1, 0003_003_0005_005_0007_007_0008_008_0009_009_0010_010_0011_011_0012_012_0013_013_0014_014_0015_015_0016_016_0017_017_0018_018_0020_020_0024_024_0002_002_0027_027_0028_028_0029_029_0392_006_0021_021_0022_022_0023_023_0026_026_0019_019_0393_025, 1111_003_1108_004_0425_005_0404_006_0416_007_0418_008_0456_009_0428_010_0433_011_0395_012_1028_016_1447_017_0315_019_0321_015_1099_018_0850_013_0812_014_0030_020⟩,
  ⟨1, 0003_003_0005_005_0007_007_0008_008_0009_009_0010_010_0011_011_0012_012_0013_013_0014_014_0015_015_0016_016_0017_017_0018_018_0020_020_0024_024_0002_002_0027_027_0028_028_0029_029_0394_006_0021_021_0022_022_0023_023_0026_026_0019_019_0395_025, 1111_003_1108_004_0425_005_0404_006_0416_007_0418_008_0456_009_0428_010_0433_011_0395_012_1028_016_1447_017_0315_019_0321_015_1099_018_0850_013_0812_014_0038_002⟩,
  ⟨1, 0003_003_0005_005_0007_007_0008_008_0009_009_0010_010_0011_011_0012_012_0013_013_0014_014_0015_015_0016_016_0017_017_0018_018_0020_020_0024_024_0002_002_0027_027_0028_028_0029_029_0396_006_0021_021_0022_022_0023_023_0026_026_0019_019_0397_025, 1111_003_1108_004_0425_005_0404_006_0416_007_0418_008_0456_009_0428_010_0433_011_0395_012_1028_016_1447_017_0315_019_0321_015_1099_018_0850_013_0812_014_0016_020⟩,
  ⟨1, 0003_003_0005_005_0007_007_0008_008_0009_009_0010_010_0011_011_0012_012_0013_013_0014_014_0015_015_0016_016_0017_017_0018_018_0020_020_0024_024_0002_002_0027_027_0028_028_0029_029_0398_006_0021_021_0022_022_0023_023_0026_026_0019_019_0399_025, 1111_003_1108_004_0425_005_0404_006_0416_007_0418_008_0456_009_0428_010_0433_011_0395_012_1028_016_1447_017_0315_019_0321_015_1099_018_0850_013_0812_014_0013_020⟩,
  ⟨1, 0003_003_0005_005_0007_007_0008_008_0009_009_0010_010_0011_011_0012_012_0013_013_0014_014_0015_015_0016_016_0017_017_0018_018_0020_020_0024_024_0002_002_0027_027_0028_028_0029_029_0400_006_0021_021_0022_022_0023_023_0026_026_0019_019_0401_025, 1111_003_1108_004_0425_005_0404_006_0416_007_0418_008_0456_009_0428_010_0433_011_0395_012_1028_016_1447_017_0315_019_0321_015_1099_018_0850_013_0812_014_0050_020⟩,
  ⟨1, 0003_003_0005_005_0007_007_0008_008_0009_009_0010_010_0011_011_0012_012_0013_013_0014_014_0015_015_0016_016_0017_017_0018_018_0020_020_0024_024_0002_002_0027_027_0028_028_0029_029_0402_006_0021_021_0022_022_0023_023_0026_026_0019_019_0403_025, 1111_003_1108_004_0425_005_0404_006_0416_007_0418_008_0456_009_0428_010_0433_011_0395_012_1028_016_1447_017_0315_019_0321_015_1099_018_0850_013_0812_014_0057_020⟩,
  ⟨1, 0003_003_0005_005_0007_007_0008_008_0009_009_0010_010_0011_011_0012_012_0013_013_0014_014_0015_015_0016_016_0017_017_0018_018_0020_020_0024_024_0002_002_0027_027_0028_028_0029_029_0404_006_0021_021_0022_022_0023_023_0026_026_0019_019_0405_025, 1111_003_1108_004_0425_005_0404_006_0416_007_0418_008_0456_009_0428_010_0433_011_0395_012_1028_016_1447_017_0315_019_0321_015_1099_018_0850_013_0812_014_0058_020⟩,
  ⟨1, 0003_003_0005_005_0007_007_0008_008_0009_009_0010_010_0011_011_0012_012_0013_013_0014_014_0015_015_0016_016_0017_017_0018_018_0020_020_0024_024_0002_002_0027_027_0028_028_0029_029_0406_006_0021_021_0022_022_0023_023_0026_026_0019_019_0407_025, 1111_003_1108_004_0425_005_0404_006_0416_007_0418_008_0456_009_0428_010_0433_011_0395_012_1028_016_1447_017_0315_019_0321_015_1099_018_0850_013_0812_014_0060_020⟩,
  ⟨1, 0003_003_0005_005_0007_007_0008_008_0009_009_0010_010_0011_011_0012_012_0013_013_0014_014_0015_015_0016_016_0017_017_0018_018_0020_020_0024_024_0002_002_0027_027_0028_028_0029_029_0408_006_0021_021_0022_022_0023_023_0026_026_0019_019_0409_025, 1111_003_1108_004_0425_005_0404_006_0416_007_0418_008_0456_009_0428_010_0433_011_0395_012_1028_016_1447_017_0315_019_0321_015_1099_018_0850_013_0812_014_0068_020⟩,
  ⟨1, 0003_003_0005_005_0007_007_0008_008_0009_009_0010_010_0011_011_0012_012_0013_013_0014_014_0015_015_0016_016_0017_017_0018_018_0020_020_0024_024_0002_002_0027_027_0028_028_0029_029_0410_006_0021_021_0022_022_0023_023_0026_026_0019_019_0411_025, 1111_003_1108_004_0425_005_0404_006_0416_007_0418_008_0456_009_0428_010_0433_011_0395_012_1028_016_1447_017_0315_019_0321_015_1099_018_0850_013_0812_014_0069_020⟩,
  ⟨1, 0003_003_0058_005_0007_007_0008_008_0060_009_0413_044_0061_010_0062_011_0012_012_0064_013_0065_014_0067_015_0068_016_0069_017_0070_018_0020_020_0024_024_0002_002_0027_027_0028_028_0074_029_0412_006_0021_021_0022_022_0023_023_0026_026_0019_019_0414_025, 1101_003_1103_004_0687_005_0688_006_0689_007_0690_008_0692_009_0693_010_0694_011_0695_012_1028_016_1447_017_0315_019_0321_015_1119_018_0850_013_0812_014_0518_025⟩,
  ⟨1, 0003_003_0005_005_0007_007_0008_008_0009_009_0010_010_0011_011_0012_012_0013_013_0014_014_0015_015_0016_016_0017_017_0018_018_0020_020_0024_024_0002_002_0027_027_0028_028_0029_029_0415_006_0021_021_0022_022_0023_023_0026_026_0019_019_0416_025, 1111_003_1108_004_0425_005_0404_006_0416_007_0418_008_0456_009_0428_010_0433_011_0395_012_1028_016_1447_017_0315_019_0321_015_1099_018_0850_013_0812_014_0446_025⟩,
  ⟨1, 0003_003_0058_005_0007_007_0008_008_0060_009_0061_010_0062_011_0012_012_0064_013_0065_014_0067_015_0068_016_0069_017_0070_018_0020_020_0024_024_0002_002_0027_027_0028_028_0074_029_0417_006_0021_021_0022_022_0023_023_0026_026_0019_019_0418_025, 1101_003_1103_004_0687_005_0688_006_0689_007_0690_008_0692_009_0693_010_0694_011_0695_012_1028_016_1447_017_0315_019_0321_015_1119_018_0850_013_0812_014_0528_025⟩,
  ⟨4, 0002_002_0419_045_0420_046, 0⟩,
  ⟨4, 0423_049_0425_051_0002_002_0424_050_0421_047_0422_048, 0⟩,
  ⟨4, 0002_002_0426_052_0427_046, 0⟩,
  ⟨4, 0002_002_0428_052_0429_046, 0⟩,
  ⟨4, 0002_002_0430_052_0431_046, 0⟩,
  ⟨4, 0002_002_0432_052_0433_046, 0⟩,
  ⟨4, 0002_002_0434_052_0435_046, 0⟩,
  ⟨4, 0438_049_0002_002_0439_050_0436_047_0437_048, 0⟩,
  ⟨5, 0423_049_0425_051_0002_002_0424_050_0421_054_0422_053, 0⟩,
  ⟨5, 0002_002_0419_056_0420_055, 0⟩,
  ⟨5, 0438_049_0002_002_0439_050_0436_054_0437_053, 0⟩,
  ⟨5, 0002_002_0428_057_0429_055, 0⟩,
  ⟨5, 0002_002_0430_057_0431_055, 0⟩,
  ⟨5, 0002_002_0434_057_0435_055, 0⟩,
  ⟨5, 0002_002_0432_057_0433_055, 0⟩,
  ⟨5, 0002_002_0426_057_0427_055, 0⟩,
  ⟨6, 0002_002_0442_060_0440_058_0441_059, 0174_026⟩,
  ⟨6, 0002_002_0445_060_0443_058_0444_059, 0176_026⟩,
  ⟨6, 0002_002_0445_060_0446_058_0447_059, 0174_026⟩,
  ⟨4, 0450_012_0454_065_0455_066_0002_002_0451_063_0452_064_0453_021_0456_023_0448_061_0449_062, 0229_027⟩,
  ⟨4, 0450_012_0454_065_0455_066_0002_002_0451_063_0456_023_0448_067_0449_068, 0229_027⟩,
  ⟨4, 0450_012_0458_072_0459_073_0460_074_0461_075_0462_076_0454_065_0455_066_0002_002_0451_063_0452_064_0453_021_0463_077_0464_078_0465_079_0456_023_0457_071_0448_069_0449_070, 0229_027⟩,
  ⟨4, 0450_012_0468_082_0458_072_0459_073_0460_074_0461_075_0462_076_0454_065_0455_066_0469_083_0002_002_0451_063_0452_064_0453_021_0463_077_0464_078_0465_079_0456_023_0457_071_0466_080_0467_081, 0229_027⟩,
  ⟨4, 0002_002_0470_084_0471_059, 0⟩,
  ⟨4, 0450_012_0468_082_0458_072_0459_073_0460_074_0461_075_0462_076_0454_065_0455_066_0469_083_0002_002_0451_063_0452_064_0453_021_0463_077_0464_078_0465_079_0456_023_0457_071_0472_080_0473_081, 0229_027⟩,
  ⟨4, 0450_012_0468_082_0458_072_0459_073_0460_074_0461_075_0462_076_0454_065_0455_066_0469_083_0002_002_0451_063_0452_064_0453_021_0463_077_0464_078_0465_079_0456_023_0457_071_0474_080_0475_081, 0229_027⟩,
  ⟨4, 0450_012_0455_066_0002_002_0456_023_0448_085_0449_059, 0229_027⟩,
  ⟨6, 0002_002_0476_086_0477_059, 0⟩,
  ⟨4, 0450_012_0468_082_0458_072_0459_073_0460_074_0461_075_0462_076_0454_065_0455_066_0469_083_0002_002_0451_063_0452_064_0453_021_0463_077_0464_078_0465_079_0456_023_0457_071_0478_080_0479_081, 0229_027⟩,
  ⟨4, 0450_012_0002_002_0456_023_0480_087_0481_059, 0229_027⟩,
  ⟨4, 0450_012_0002_002_0482_088_0483_059, 0229_027⟩,
  ⟨4, 0450_012_0002_002_0456_023_0484_087_0485_059, 0229_027⟩,
  ⟨4, 0450_012_0454_065_0455_066_0002_002_0451_063_0452_064_0453_021_0463_077_0456_023_0457_071_0448_089_0449_090, 0229_027⟩,
  ⟨4, 0450_012_0460_074_0461_075_0454_065_0455_066_0002_002_0451_063_0452_064_0453_021_0463_077_0464_078_0465_079_0456_023_0457_071_0448_091_0449_092, 0229_027⟩]

/-- Parse states from 192 on. -/
def states3 : Array StateRow := #[
  ⟨4, 0450_012_0455_066_0002_002_0456_023_0448_085_0449_059, 0229_027⟩,
  ⟨4, 0450_012_0460_074_0461_075_0462_076_0454_065_0455_066_0002_002_0451_063_0452_064_0453_021_0463_077_0464_078_0465_079_0456_023_0457_071_0448_091_0449_070, 0229_027⟩,
  ⟨4, 0450_012_0458_072_0460_074_0461_075_0462_076_0454_065_0455_066_0002_002_0451_063_0452_064_0453_021_0463_077_0464_078_0465_079_0456_023_0457_071_0448_093_0449_070, 0229_027⟩,
  ⟨4, 0450_012_0454_065_0455_066_0002_002_0451_063_0453_021_0456_023_0448_067_0449_062, 0229_027⟩,
  ⟨4, 0450_012_0454_065_0455_066_0002_002_0451_063_0452_064_0453_021_0463_077_0464_078_0465_079_0456_023_0457_071_0448_094_0449_095, 0229_027⟩,
  ⟨4, 0450_012_0460_074_0454_065_0455_066_0002_002_0451_063_0452_064_0453_021_0463_077_0464_078_0465_079_0456_023_0457_071_0448_094_0449_092, 0229_027⟩,
  ⟨4, 0002_002_0486_058_0487_059, 0⟩,
  ⟨4, 0002_002_0488_058_0489_059, 0⟩,
  ⟨4, 0002_002_0490_058_0491_059, 0⟩,
  ⟨4, 0002_002_0492_058_0493_059, 0⟩,
  ⟨4, 0002_002_0494_058_0495_059, 0⟩,
  ⟨4, 0002_002_0496_058_0497_059, 0⟩,
  ⟨4, 0002_002_0498_058_0499_059, 0⟩,
  ⟨4, 0002_002_0500_058_0501_059, 0⟩,
  ⟨4, 0002_002_0502_058_0503_059, 0⟩,
  ⟨4, 0002_002_0504_058_0505_059, 0⟩,
  ⟨4, 0002_002_0506_058_0507_059, 0⟩,
  ⟨4, 0002_002_0508_058_0509_059, 0⟩,
  ⟨4, 0002_002_0510_058_0511_059, 0⟩,
  ⟨4, 0002_002_0512_058_0513_059, 0⟩,
  ⟨4, 0002_002_0514_058_0515_059, 0⟩,
  ⟨4, 0002_002_0516_058_0517_059, 0⟩,
  ⟨4, 0002_002_0518_058_0519_059, 0⟩,
  ⟨4, 0002_002_0520_058_0521_059, 0⟩,
  ⟨4, 0002_002_0522_058_0523_059, 0⟩,
  ⟨4, 0002_002_0524_058_0525_059, 0⟩,
  ⟨4, 0002_002_0526_058_0527_059, 0⟩,
  ⟨4, 0002_002_0531_021_0530_099_0517_098_0528_096_0516_097_0529_081, 0⟩,
  ⟨4, 0002_002_0532_058_0533_059, 0⟩,
  ⟨4, 0002_002_0497_098_0496_097_0510_100_0511_101, 0⟩,
  ⟨4, 0002_002_0534_058_0535_059, 0⟩,
  ⟨4, 0002_002_0539_021_0538_099_0495_098_0536_096_0494_097_0537_081, 0⟩,
  ⟨4, 0002_002_0543_021_0542_099_0491_098_0540_096_0490_097_0541_081, 0⟩,
  ⟨4, 0002_002_0547_021_0546_099_0493_098_0544_096_0492_097_0545_081, 0⟩,
  ⟨4, 0002_002_0548_058_0549_059, 0⟩,
  ⟨4, 0002_002_0550_058_0551_059, 0⟩,
  ⟨4, 0002_002_0552_058_0553_059, 0⟩,
  ⟨4, 0002_002_0554_058_0555_059, 0⟩,
  ⟨4, 0002_002_0556_058_0557_059, 0⟩,
  ⟨4, 0002_002_0558_058_0559_059, 0⟩,
  ⟨4, 0562_103_0563_020_0564_104_0002_002_0560_102_0561_059, 0⟩,
  ⟨1, 0567_106_0450_012_0468_082_0458_072_0459_073_0460_074_0461_075_0462_076_0454_065_0455_066_0469_083_0002_002_0451_063_0452_064_0453_021_0463_077_0464_078_0465_079_0456_023_0457_071_0565_105_0566_081, 0229_027⟩,
  ⟨7, 0002_002_0568_060_0446_108_0447_107, 0235_026⟩,
  ⟨7, 0002_002_0569_060_0440_108_0441_107, 0235_026⟩,
  ⟨1, 0572_106_0450_012_0468_082_0458_072_0459_073_0460_074_0461_075_0462_076_0454_065_0455_066_0469_083_0002_002_0451_063_0452_064_0453_021_0463_077_0464_078_0465_079_0456_023_0457_071_0570_105_0571_081, 0229_027⟩,
  ⟨1, 0567_106_0450_012_0468_082_0458_072_0459_073_0460_074_0461_075_0462_076_0454_065_0455_066_0469_083_0002_002_0451_063_0452_064_0453_021_0463_077_0464_078_0465_079_0456_023_0457_071_0573_105_0574_081, 0229_027⟩,
  ⟨7, 0002_002_0568_060_0443_108_0444_107, 0234_026⟩,
  ⟨1, 0572_106_0450_012_0468_082_0458_072_0459_073_0460_074_0461_075_0462_076_0454_065_0455_066_0469_083_0002_002_0451_063_0452_064_0453_021_0463_077_0464_078_0465_079_0456_023_0457_071_0575_105_0576_081, 0229_027⟩,
  ⟨5, 0577_012_0581_065_0582_066_0002_002_0578_063_0579_064_0580_021_0583_023_0448_110_0449_109, 0264_027⟩,
  ⟨1, 0450_012_0468_082_0458_072_0459_073_0460_074_0461_075_0462_076_0454_065_0455_066_0469_083_0002_002_0451_063_0452_064_0453_021_0463_077_0464_078_0465_079_0456_023_0457_071_0584_105_0585_081, 0229_027⟩,
  ⟨5, 0577_012_0002_002_0583_023_0480_111_0481_107, 0264_027⟩,
  ⟨5, 0577_012_0002_002_0482_112_0483_107, 0264_027⟩,
  ⟨5, 0577_012_0002_002_0583_023_0484_111_0485_107, 0264_027⟩,
  ⟨5, 0577_012_0582_066_0002_002_0583_023_0448_113_0449_107, 0264_027⟩,
  ⟨5, 0577_012_0587_074_0588_075_0589_076_0581_065_0582_066_0002_002_0578_063_0579_064_0580_021_0590_077_0591_078_0592_079_0583_023_0586_071_0448_115_0449_114, 0264_027⟩,
  ⟨5, 0577_012_0593_072_0587_074_0588_075_0589_076_0581_065_0582_066_0002_002_0578_063_0579_064_0580_021_0590_077_0591_078_0592_079_0583_023_0586_071_0448_116_0449_114, 0264_027⟩,
  ⟨5, 0577_012_0581_065_0582_066_0002_002_0578_063_0580_021_0583_023_0448_117_0449_109, 0264_027⟩,
  ⟨5, 0577_012_0581_065_0582_066_0002_002_0578_063_0579_064_0580_021_0590_077_0591_078_0592_079_0583_023_0586_071_0448_119_0449_118, 0264_027⟩,
  ⟨5, 0577_012_0587_074_0581_065_0582_066_0002_002_0578_063_0579_064_0580_021_0590_077_0591_078_0592_079_0583_023_0586_071_0448_119_0449_120, 0264_027⟩,
  ⟨5, 0577_012_0587_074_0588_075_0581_065_0582_066_0002_002_0578_063_0579_064_0580_021_0590_077_0591_078_0592_079_0583_023_0586_071_0448_115_0449_120, 0264_027⟩,
  ⟨5, 0577_012_0581_065_0582_066_0002_002_0578_063_0583_023_0448_117_0449_121, 0264_027⟩,
  ⟨5, 0577_012_0582_066_0002_002_0583_023_0448_113_0449_107, 0264_027⟩,
  ⟨5, 0577_012_0581_065_0582_066_0002_002_0578_063_0579_064_0580_021_0590_077_0583_023_0586_071_0448_123_0449_122, 0264_027⟩,
  ⟨5, 0577_012_0593_072_0594_073_0587_074_0588_075_0589_076_0581_065_0582_066_0002_002_0578_063_0579_064_0580_021_0590_077_0591_078_0592_079_0583_023_0586_071_0448_124_0449_114, 0264_027⟩]

/-- Parse states from 256 on. -/
def states4 : Array StateRow := #[
  ⟨5, 0577_012_0595_082_0593_072_0594_073_0587_074_0588_075_0589_076_0581_065_0582_066_0596_083_0002_002_0578_063_0579_064_0580_021_0590_077_0591_078_0592_079_0583_023_0586_071_0466_126_0467_125, 0264_027⟩,
  ⟨5, 0577_012_0595_082_0593_072_0594_073_0587_074_0588_075_0589_076_0581_065_0582_066_0596_083_0002_002_0578_063_0579_064_0580_021_0590_077_0591_078_0592_079_0583_023_0586_071_0472_126_0473_125, 0264_027⟩,
  ⟨5, 0577_012_0595_082_0593_072_0594_073_0587_074_0588_075_0589_076_0581_065_0582_066_0596_083_0002_002_0578_063_0579_064_0580_021_0590_077_0591_078_0592_079_0583_023_0586_071_0474_126_0475_125, 0264_027⟩,
  ⟨7, 0002_002_0476_127_0477_107, 0⟩,
  ⟨5, 0577_012_0595_082_0593_072_0594_073_0587_074_0588_075_0589_076_0581_065_0582_066_0596_083_0002_002_0578_063_0579_064_0580_021_0590_077_0591_078_0592_079_0583_023_0586_071_0478_126_0479_125, 0264_027⟩,
  ⟨5, 0002_002_0531_021_0530_099_0517_098_0528_128_0516_097_0529_125, 0⟩,
  ⟨5, 0002_002_0497_098_0496_097_0510_130_0511_129, 0⟩,
  ⟨5, 0002_002_0532_108_0533_107, 0⟩,
  ⟨5, 0002_002_0554_108_0555_107, 0⟩,
  ⟨5, 0002_002_0543_021_0542_099_0491_098_0540_128_0490_097_0541_125, 0⟩,
  ⟨5, 0002_002_0496_108_0497_107, 0⟩,
  ⟨5, 0002_002_0470_108_0471_107, 0⟩,
  ⟨5, 0002_002_0498_108_0499_107, 0⟩,
  ⟨5, 0002_002_0547_021_0546_099_0493_098_0544_128_0492_097_0545_125, 0⟩,
  ⟨5, 0002_002_0502_108_0503_107, 0⟩,
  ⟨5, 0002_002_0539_021_0538_099_0495_098_0536_128_0494_097_0537_125, 0⟩,
  ⟨5, 0002_002_0500_108_0501_107, 0⟩,
  ⟨5, 0002_002_0504_108_0505_107, 0⟩,
  ⟨5, 0002_002_0514_108_0515_107, 0⟩,
  ⟨5, 0002_002_0506_108_0507_107, 0⟩,
  ⟨5, 0002_002_0518_108_0519_107, 0⟩,
  ⟨5, 0002_002_0520_108_0521_107, 0⟩,
  ⟨5, 0002_002_0522_108_0523_107, 0⟩,
  ⟨5, 0002_002_0524_108_0525_107, 0⟩,
  ⟨5, 0002_002_0526_108_0527_107, 0⟩,
  ⟨5, 0002_002_0508_108_0509_107, 0⟩,
  ⟨5, 0002_002_0534_108_0535_107, 0⟩,
  ⟨5, 0002_002_0486_108_0487_107, 0⟩,
  ⟨5, 0002_002_0548_108_0549_107, 0⟩,
  ⟨5, 0002_002_0550_108_0551_107, 0⟩,
  ⟨5, 0002_002_0552_108_0553_107, 0⟩,
  ⟨5, 0002_002_0556_108_0557_107, 0⟩,
  ⟨5, 0002_002_0558_108_0559_107, 0⟩,
  ⟨5, 0002_002_0516_108_0517_107, 0⟩,
  ⟨5, 0002_002_0488_108_0489_107, 0⟩,
  ⟨5, 0002_002_0490_108_0491_107, 0⟩,
  ⟨5, 0002_002_0492_108_0493_107, 0⟩,
  ⟨5, 0002_002_0494_108_0495_107, 0⟩,
  ⟨5, 0002_002_0510_108_0511_107, 0⟩,
  ⟨5, 0597_103_0598_020_0599_104_0002_002_0560_131_0561_107, 0⟩,
  ⟨5, 0002_002_0512_108_0513_107, 0⟩,
  ⟨3, 0567_106_0577_012_0595_082_0593_072_0594_073_0587_074_0588_075_0589_076_0581_065_0582_066_0596_083_0002_002_0578_063_0579_064_0580_021_0590_077_0591_078_0592_079_0583_023_0586_071_0573_132_0574_125, 0264_027⟩,
  ⟨3, 0572_106_0577_012_0595_082_0593_072_0594_073_0587_074_0588_075_0589_076_0581_065_0582_066_0596_083_0002_002_0578_063_0579_064_0580_021_0590_077_0591_078_0592_079_0583_023_0586_071_0575_132_0576_125, 0264_027⟩,
  ⟨3, 0567_106_0577_012_0595_082_0593_072_0594_073_0587_074_0588_075_0589_076_0581_065_0582_066_0596_083_0002_002_0578_063_0579_064_0580_021_0590_077_0591_078_0592_079_0583_023_0586_071_0565_132_0566_125, 0264_027⟩,
  ⟨3, 0572_106_0577_012_0595_082_0593_072_0594_073_0587_074_0588_075_0589_076_0581_065_0582_066_0596_083_0002_002_0578_063_0579_064_0580_021_0590_077_0591_078_0592_079_0583_023_0586_071_0570_132_0571_125, 0264_027⟩,
  ⟨3, 0577_012_0595_082_0593_072_0594_073_0587_074_0588_075_0589_076_0581_065_0582_066_0596_083_0002_002_0578_063_0579_064_0580_021_0590_077_0591_078_0592_079_0583_023_0586_071_0584_132_0585_125, 0264_027⟩,
  ⟨8, 0002_002_0420_133_0419_134, 0⟩,
  ⟨9, 0428_044_0002_002_0420_133_0419_135, 0⟩,
  ⟨8, 0423_049_0425_051_0002_002_0424_050_0421_136_0422_137, 0⟩,
  ⟨9, 0423_049_0600_106_0601_032_0425_051_0002_002_0421_138_0424_050_0422_137, 0⟩,
  ⟨10, 0602_003_0603_008_0604_139_0605_012_0606_013_0607_014_0609_020_0613_024_0002_002_0615_027_0616_028_0610_021_0611_022_0612_023_0614_026_0608_019, 1295_004_1298_028_1310_029_1312_030_1031_016_1361_017_0326_019_0308_015_1316_018_0798_013_0771_014⟩,
  ⟨10, 0602_003_0603_008_0604_139_0605_012_0606_013_0607_014_0609_020_0613_024_0002_002_0615_027_0616_028_0610_021_0611_022_0612_023_0614_026_0608_019, 1295_004_1298_028_1310_029_1372_030_1031_016_1361_017_0326_019_0308_015_1316_018_0798_013_0771_014⟩,
  ⟨8, 0438_049_0002_002_0439_050_0436_136_0437_137, 0⟩,
  ⟨11, 0002_002_0420_133_0419_140, 0⟩,
  ⟨8, 0002_002_0431_133_0430_141, 0⟩,
  ⟨8, 0002_002_0427_133_0426_141, 0⟩,
  ⟨8, 0002_002_0429_133_0428_141, 0⟩,
  ⟨8, 0002_002_0433_133_0432_141, 0⟩,
  ⟨8, 0002_002_0435_133_0434_141, 0⟩,
  ⟨11, 0423_049_0425_051_0002_002_0424_050_0421_142_0422_137, 0⟩,
  ⟨12, 0003_003_0012_012_0617_013_0618_014_0020_020_0024_024_0002_002_0027_027_0028_028_0021_021_0022_022_0023_023_0026_026_0619_143_0019_019, 0698_031_1028_016_1447_017_0315_019_0321_015_1104_018_0850_013_0812_014⟩,
  ⟨11, 0002_002_0429_133_0428_144, 0⟩,
  ⟨11, 0002_002_0435_133_0434_144, 0⟩,
  ⟨11, 0002_002_0427_133_0426_144, 0⟩]

/-- Parse states from 320 on. -/
def states5 : Array StateRow := #[
  ⟨11, 0002_002_0431_133_0430_144, 0⟩,
  ⟨11, 0438_049_0002_002_0439_050_0436_142_0437_137, 0⟩,
  ⟨12, 0003_003_0012_012_0617_013_0618_014_0020_020_0024_024_0002_002_0027_027_0028_028_0021_021_0022_022_0023_023_0026_026_0620_143_0019_019, 0409_031_1028_016_1447_017_0315_019_0321_015_1115_018_0850_013_0812_014⟩,
  ⟨11, 0002_002_0433_133_0432_144, 0⟩,
  ⟨13, 0002_002_0420_133_0419_145, 0⟩,
  ⟨14, 0602_003_0605_012_0621_031_0606_013_0607_014_0609_020_0622_146_0613_024_0002_002_0615_027_0616_028_0610_021_0611_022_0612_023_0614_026_0608_019, 1031_016_1262_021_1188_032_1361_017_0304_019_0308_015_1412_018_0988_013_0771_014⟩,
  ⟨8, 0423_049_0623_106_0624_147_0425_051_0002_002_0421_148_0424_050_0422_137, 0⟩,
  ⟨15, 0423_049_0425_051_0002_002_0421_149_0424_050_0422_137, 0⟩,
  ⟨1, 0627_049_0628_106_0002_002_0625_150_0626_151, 0⟩,
  ⟨1, 0631_049_0628_106_0002_002_0629_150_0630_151, 0⟩,
  ⟨14, 0602_003_0605_012_0632_152_0633_031_0606_013_0607_014_0609_020_0613_024_0002_002_0615_027_0616_028_0610_021_0611_022_0612_023_0614_026_0608_019, 1031_016_1361_017_0333_019_1107_033_0308_015_1403_018_0798_013_0771_014⟩,
  ⟨14, 0602_003_0605_012_0632_152_0633_031_0606_013_0607_014_0609_020_0613_024_0002_002_0615_027_0616_028_0610_021_0611_022_0612_023_0614_026_0608_019, 1031_016_1361_017_0333_019_1107_033_0308_015_1294_018_0798_013_0771_014⟩,
  ⟨16, 0423_049_0425_051_0002_002_0421_153_0424_050_0422_137, 0⟩,
  ⟨8, 0423_049_0634_106_0635_152_0425_051_0002_002_0421_154_0424_050_0422_137, 0⟩,
  ⟨16, 0002_002_0420_133_0419_155, 0⟩,
  ⟨14, 0602_003_0605_012_0632_152_0633_031_0606_013_0607_014_0609_020_0613_024_0002_002_0615_027_0616_028_0610_021_0611_022_0612_023_0614_026_0608_019, 1031_016_1361_017_0333_019_1107_033_0308_015_1323_018_0798_013_0771_014⟩,
  ⟨14, 0602_003_0605_012_0632_152_0633_031_0606_013_0607_014_0609_020_0613_024_0002_002_0615_027_0616_028_0610_021_0611_022_0612_023_0614_026_0608_019, 1031_016_1361_017_0333_019_1107_033_0308_015_1343_018_0798_013_0771_014⟩,
  ⟨15, 0002_002_0420_133_0419_156, 0⟩,
  ⟨13, 0423_049_0425_051_0002_002_0421_157_0424_050_0422_137, 0⟩,
  ⟨14, 0602_003_0605_012_0632_152_0633_031_0606_013_0607_014_0609_020_0613_024_0002_002_0615_027_0616_028_0610_021_0611_022_0612_023_0614_026_0608_019, 1031_016_1361_017_0333_019_1107_033_0308_015_1269_018_0798_013_0771_014⟩,
  ⟨14, 0602_003_0605_012_0632_152_0633_031_0606_013_0607_014_0609_020_0613_024_0002_002_0615_027_0616_028_0610_021_0611_022_0612_023_0614_026_0608_019, 1031_016_1361_017_0333_019_1107_033_0308_015_1345_018_0798_013_0771_014⟩,
  ⟨14, 0602_003_0605_012_0632_152_0633_031_0606_013_0607_014_0609_020_0613_024_0002_002_0615_027_0616_028_0610_021_0611_022_0612_023_0614_026_0608_019, 1031_016_1361_017_0333_019_1107_033_0308_015_1467_018_0798_013_0771_014⟩,
  ⟨13, 0002_002_0429_133_0428_158, 0⟩,
  ⟨14, 0602_003_0605_012_0621_031_0606_013_0607_014_0609_020_0636_146_0613_024_0002_002_0615_027_0616_028_0610_021_0611_022_0612_023_0614_026_0608_019, 1031_016_1262_021_1217_032_1361_017_0304_019_0308_015_1009_013_0771_014⟩,
  ⟨14, 0602_003_0605_012_0621_031_0606_013_0607_014_0609_020_0637_146_0613_024_0002_002_0615_027_0616_028_0610_021_0611_022_0612_023_0614_026_0608_019, 1031_016_1262_021_1217_032_1361_017_0304_019_0308_015_1009_013_0771_014⟩,
  ⟨14, 0602_003_0605_012_0638_152_0621_031_0606_013_0607_014_0609_020_0613_024_0002_002_0615_027_0616_028_0610_021_0611_022_0612_023_0614_026_0608_019, 1031_016_1252_021_1361_017_0304_019_0422_034_0308_015_1006_013_0771_014⟩,
  ⟨14, 0602_003_0605_012_0621_031_0606_013_0607_014_0609_020_0639_146_0613_024_0002_002_0615_027_0616_028_0610_021_0611_022_0612_023_0614_026_0608_019, 1031_016_1262_021_1131_032_1361_017_0304_019_0308_015_1009_013_0771_014⟩,
  ⟨14, 0602_003_0605_012_0621_031_0606_013_0607_014_0609_020_0640_146_0613_024_0002_002_0615_027_0616_028_0610_021_0611_022_0612_023_0614_026_0608_019, 1031_016_1262_021_1150_032_1361_017_0304_019_0308_015_1009_013_0771_014⟩,
  ⟨14, 0602_003_0605_012_0641_152_0621_031_0606_013_0607_014_0609_020_0613_024_0002_002_0615_027_0616_028_0610_021_0611_022_0612_023_0614_026_0608_019, 1031_016_1233_021_1361_017_0304_019_0449_034_0308_015_0992_013_0771_014⟩,
  ⟨14, 0602_003_0605_012_0621_031_0606_013_0607_014_0609_020_0642_146_0613_024_0002_002_0615_027_0616_028_0610_021_0611_022_0612_023_0614_026_0608_019, 1031_016_1262_021_1217_032_1361_017_0304_019_0308_015_1009_013_0771_014⟩,
  ⟨14, 0602_003_0605_012_0621_031_0606_013_0607_014_0609_020_0643_146_0613_024_0002_002_0615_027_0616_028_0610_021_0611_022_0612_023_0614_026_0608_019, 1031_016_1262_021_1217_032_1361_017_0304_019_0308_015_1009_013_0771_014⟩,
  ⟨16, 0438_049_0002_002_0436_153_0439_050_0437_137, 0⟩,
  ⟨14, 0602_003_0605_012_0644_152_0621_031_0606_013_0607_014_0609_020_0613_024_0002_002_0615_027_0616_028_0610_021_0611_022_0612_023_0614_026_0608_019, 1031_016_1230_021_1361_017_0304_019_0445_034_0308_015_1002_013_0771_014⟩,
  ⟨16, 0002_002_0429_133_0428_159, 0⟩,
  ⟨16, 0002_002_0431_133_0430_159, 0⟩,
  ⟨15, 0002_002_0431_133_0430_160, 0⟩,
  ⟨14, 0602_003_0605_012_0621_031_0606_013_0607_014_0609_020_0645_146_0613_024_0002_002_0615_027_0616_028_0610_021_0611_022_0612_023_0614_026_0608_019, 1031_016_1262_021_1156_032_1361_017_0304_019_0308_015_1009_013_0771_014⟩,
  ⟨14, 0602_003_0605_012_0646_152_0621_031_0606_013_0607_014_0609_020_0613_024_0002_002_0615_027_0616_028_0610_021_0611_022_0612_023_0614_026_0608_019, 1031_016_1190_021_1361_017_0304_019_0451_034_0308_015_1001_013_0771_014⟩,
  ⟨14, 0602_003_0605_012_0621_031_0606_013_0607_014_0609_020_0647_146_0613_024_0002_002_0615_027_0616_028_0610_021_0611_022_0612_023_0614_026_0608_019, 1031_016_1262_021_1217_032_1361_017_0304_019_0308_015_1009_013_0771_014⟩,
  ⟨14, 0602_003_0605_012_0621_031_0606_013_0607_014_0609_020_0648_146_0613_024_0002_002_0615_027_0616_028_0610_021_0611_022_0612_023_0614_026_0608_019, 1031_016_1262_021_1217_032_1361_017_0304_019_0308_015_1009_013_0771_014⟩,
  ⟨14, 0602_003_0605_012_0621_031_0606_013_0607_014_0609_020_0649_146_0613_024_0002_002_0615_027_0616_028_0610_021_0611_022_0612_023_0614_026_0608_019, 1031_016_1262_021_1217_032_1361_017_0304_019_0308_015_1009_013_0771_014⟩,
  ⟨16, 0002_002_0427_133_0426_159, 0⟩,
  ⟨15, 0438_049_0002_002_0436_149_0439_050_0437_137, 0⟩,
  ⟨15, 0002_002_0427_133_0426_160, 0⟩,
  ⟨13, 0002_002_0433_133_0432_158, 0⟩,
  ⟨14, 0602_003_0605_012_0621_031_0606_013_0607_014_0609_020_0650_146_0613_024_0002_002_0615_027_0616_028_0610_021_0611_022_0612_023_0614_026_0608_019, 1031_016_1262_021_1164_032_1361_017_0304_019_0308_015_1009_013_0771_014⟩,
  ⟨14, 0602_003_0605_012_0651_152_0621_031_0606_013_0607_014_0609_020_0613_024_0002_002_0615_027_0616_028_0610_021_0611_022_0612_023_0614_026_0608_019, 1031_016_1207_021_1361_017_0304_019_0453_034_0308_015_1004_013_0771_014⟩,
  ⟨14, 0602_003_0605_012_0621_031_0606_013_0607_014_0609_020_0652_146_0613_024_0002_002_0615_027_0616_028_0610_021_0611_022_0612_023_0614_026_0608_019, 1031_016_1262_021_1217_032_1361_017_0304_019_0308_015_1009_013_0771_014⟩,
  ⟨16, 0002_002_0435_133_0434_159, 0⟩,
  ⟨14, 0602_003_0605_012_0621_031_0606_013_0607_014_0609_020_0653_146_0613_024_0002_002_0615_027_0616_028_0610_021_0611_022_0612_023_0614_026_0608_019, 1031_016_1262_021_1217_032_1361_017_0304_019_0308_015_1009_013_0771_014⟩,
  ⟨15, 0002_002_0433_133_0432_160, 0⟩,
  ⟨14, 0602_003_0605_012_0621_031_0606_013_0607_014_0609_020_0654_146_0613_024_0002_002_0615_027_0616_028_0610_021_0611_022_0612_023_0614_026_0608_019, 1031_016_1262_021_1173_032_1361_017_0304_019_0308_015_1009_013_0771_014⟩,
  ⟨16, 0002_002_0433_133_0432_159, 0⟩,
  ⟨14, 0602_003_0605_012_0621_031_0606_013_0607_014_0609_020_0622_146_0613_024_0002_002_0615_027_0616_028_0610_021_0611_022_0612_023_0614_026_0608_019, 1031_016_1262_021_1188_032_1361_017_0304_019_0308_015_1009_013_0771_014⟩,
  ⟨14, 0602_003_0605_012_0621_031_0606_013_0607_014_0609_020_0655_146_0613_024_0002_002_0615_027_0616_028_0610_021_0611_022_0612_023_0614_026_0608_019, 1031_016_1262_021_1217_032_1361_017_0304_019_0308_015_1009_013_0771_014⟩,
  ⟨14, 0602_003_0605_012_0656_152_0621_031_0606_013_0607_014_0609_020_0613_024_0002_002_0615_027_0616_028_0610_021_0611_022_0612_023_0614_026_0608_019, 1031_016_1240_021_1361_017_0304_019_0439_034_0308_015_0997_013_0771_014⟩,
  ⟨14, 0602_003_0605_012_0621_031_0606_013_0607_014_0609_020_0657_146_0613_024_0002_002_0615_027_0616_028_0610_021_0611_022_0612_023_0614_026_0608_019, 1031_016_1262_021_1142_032_1361_017_0304_019_0308_015_1009_013_0771_014⟩,
  ⟨13, 0438_049_0002_002_0436_157_0439_050_0437_137, 0⟩,
  ⟨15, 0002_002_0429_133_0428_160, 0⟩,
  ⟨14, 0602_003_0605_012_0621_031_0606_013_0607_014_0609_020_0658_146_0613_024_0002_002_0615_027_0616_028_0610_021_0611_022_0612_023_0614_026_0608_019, 1031_016_1262_021_1217_032_1361_017_0304_019_0308_015_1009_013_0771_014⟩,
  ⟨13, 0002_002_0431_133_0430_158, 0⟩,
  ⟨13, 0002_002_0427_133_0426_158, 0⟩,
  ⟨13, 0002_002_0435_133_0434_158, 0⟩,
  ⟨14, 0602_003_0605_012_0659_152_0621_031_0606_013_0607_014_0609_020_0613_024_0002_002_0615_027_0616_028_0610_021_0611_022_0612_023_0614_026_0608_019, 1031_016_1229_021_1361_017_0304_019_0447_034_0308_015_0995_013_0771_014⟩]

end Ucode.Grammar
