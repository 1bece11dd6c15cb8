import Ucode.Grammar.StateRow

/-!
# Parse states 768 to 1151
-/
namespace Ucode.Grammar

/-- Parse states from 768 on. -/
def states12 : Array StateRow := #[
  ⟨11, 0870_012_0449_082_0878_074_0879_075_0880_076_0882_065_0871_066_0002_002_0874_063_0877_064_0881_021_0883_173_0884_078_0885_079_0872_023_0873_172_0448_194, 0801_027⟩,
  ⟨11, 0870_012_0449_082_0875_072_0878_074_0879_075_0880_076_0882_065_0871_066_0002_002_0874_063_0877_064_0881_021_0883_173_0884_078_0885_079_0872_023_0873_172_0448_195, 0801_027⟩,
  ⟨8, 0002_002_0499_166_0498_165, 0⟩,
  ⟨8, 0888_103_0889_020_0890_104_0002_002_0561_166_0560_196, 0⟩,
  ⟨8, 0002_002_0501_166_0500_165, 0⟩,
  ⟨8, 0002_002_0507_166_0506_165, 0⟩,
  ⟨8, 0002_002_0509_166_0508_165, 0⟩,
  ⟨11, 0891_044_0002_002_0437_166_0436_183, 0⟩,
  ⟨8, 0002_002_0505_166_0504_165, 0⟩,
  ⟨8, 0002_002_0511_166_0510_165, 0⟩,
  ⟨11, 0870_012_0882_065_0871_066_0002_002_0874_063_0881_021_0872_023_0449_169_0448_197, 0801_027⟩,
  ⟨11, 0870_012_0882_065_0871_066_0002_002_0874_063_0877_064_0881_021_0883_173_0884_078_0885_079_0872_023_0873_172_0449_177_0448_198, 0801_027⟩,
  ⟨8, 0002_002_0471_166_0470_165, 0⟩,
  ⟨11, 0870_012_0878_074_0882_065_0871_066_0002_002_0874_063_0449_178_0877_064_0881_021_0883_173_0884_078_0885_079_0872_023_0873_172_0448_198, 0801_027⟩,
  ⟨11, 0870_012_0878_074_0879_075_0882_065_0871_066_0002_002_0874_063_0449_178_0877_064_0881_021_0883_173_0884_078_0885_079_0872_023_0873_172_0448_194, 0801_027⟩,
  ⟨11, 0870_012_0882_065_0871_066_0002_002_0874_063_0872_023_0449_179_0448_197, 0801_027⟩,
  ⟨11, 0870_012_0871_066_0002_002_0872_023_0449_166_0448_187, 0801_027⟩,
  ⟨11, 0870_012_0882_065_0871_066_0002_002_0874_063_0877_064_0881_021_0883_173_0872_023_0873_172_0449_181_0448_199, 0801_027⟩,
  ⟨11, 0870_012_0002_002_0872_023_0481_166_0480_193, 0801_027⟩,
  ⟨11, 0002_002_0503_166_0502_183, 0⟩,
  ⟨11, 0002_002_0501_166_0500_183, 0⟩,
  ⟨11, 0002_002_0551_166_0550_183, 0⟩,
  ⟨11, 0002_002_0553_166_0552_183, 0⟩,
  ⟨11, 0002_002_0515_166_0514_183, 0⟩,
  ⟨11, 0002_002_0523_166_0522_183, 0⟩,
  ⟨11, 0002_002_0525_166_0524_183, 0⟩,
  ⟨11, 0002_002_0557_166_0556_183, 0⟩,
  ⟨11, 0002_002_0559_166_0558_183, 0⟩,
  ⟨19, 0002_002_0892_060_0447_166_0446_200, 0814_026⟩,
  ⟨11, 0002_002_0513_166_0512_183, 0⟩,
  ⟨20, 0893_106_0850_012_0867_082_0864_072_0865_073_0858_074_0859_075_0860_076_0855_065_0856_066_0868_083_0002_002_0852_063_0853_064_0854_021_0861_173_0862_078_0863_079_0851_023_0857_172_0894_201, 0738_027_1085_036⟩,
  ⟨21, 0002_002_0895_060_0444_166_0443_202, 0811_026⟩,
  ⟨11, 0002_002_0533_166_0532_183, 0⟩,
  ⟨11, 0002_002_0555_166_0554_183, 0⟩,
  ⟨11, 0002_002_0527_166_0526_183, 0⟩,
  ⟨21, 0002_002_0896_060_0441_166_0440_202, 0803_026⟩,
  ⟨11, 0002_002_0511_166_0510_183, 0⟩,
  ⟨11, 0002_002_0505_166_0504_183, 0⟩,
  ⟨11, 0002_002_0499_166_0498_183, 0⟩,
  ⟨11, 0002_002_0549_166_0548_183, 0⟩,
  ⟨11, 0002_002_0507_166_0506_183, 0⟩,
  ⟨11, 0002_002_0497_166_0496_183, 0⟩,
  ⟨11, 0002_002_0489_166_0488_183, 0⟩,
  ⟨21, 0002_002_0895_060_0447_166_0446_202, 0803_026⟩,
  ⟨11, 0897_103_0898_020_0899_104_0002_002_0561_166_0560_203, 0⟩,
  ⟨11, 0002_002_0535_166_0534_183, 0⟩,
  ⟨19, 0002_002_0900_060_0441_166_0440_200, 0814_026⟩,
  ⟨11, 0002_002_0471_166_0470_183, 0⟩,
  ⟨22, 0002_002_0901_060_0444_166_0443_204, 0820_026⟩,
  ⟨11, 0002_002_0509_166_0508_183, 0⟩,
  ⟨11, 0002_002_0491_166_0490_183, 0⟩,
  ⟨11, 0002_002_0495_166_0494_183, 0⟩,
  ⟨22, 0002_002_0901_060_0447_166_0446_204, 0822_026⟩,
  ⟨11, 0002_002_0487_166_0486_183, 0⟩,
  ⟨22, 0002_002_0902_060_0441_166_0440_204, 0822_026⟩,
  ⟨11, 0002_002_0521_166_0520_183, 0⟩,
  ⟨11, 0002_002_0517_166_0516_183, 0⟩,
  ⟨19, 0002_002_0892_060_0444_166_0443_200, 0796_026⟩,
  ⟨11, 0002_002_0493_166_0492_183, 0⟩,
  ⟨11, 0002_002_0519_166_0518_183, 0⟩,
  ⟨16, 0903_012_0905_065_0906_066_0002_002_0904_063_0907_023_0449_179_0448_205, 0900_027⟩,
  ⟨13, 0908_012_0912_065_0913_066_0002_002_0909_063_0910_064_0911_021_0914_023_0449_169_0448_206, 0909_027⟩,
  ⟨13, 0908_012_0913_066_0002_002_0914_023_0449_166_0448_207, 0909_027⟩,
  ⟨13, 0908_012_0449_082_0916_074_0917_075_0918_076_0912_065_0913_066_0002_002_0909_063_0910_064_0911_021_0919_173_0920_078_0921_079_0914_023_0915_172_0448_208, 0909_027⟩]

/-- Parse states from 832 on. -/
def states13 : Array StateRow := #[
  ⟨16, 0903_012_0002_002_0907_023_0481_166_0480_209, 0900_027⟩,
  ⟨16, 0903_012_0002_002_0483_166_0482_210, 0900_027⟩,
  ⟨16, 0903_012_0002_002_0907_023_0485_166_0484_209, 0900_027⟩,
  ⟨15, 0922_012_0923_066_0002_002_0924_023_0449_166_0448_211, 0919_027⟩,
  ⟨15, 0922_012_0929_065_0923_066_0002_002_0926_063_0927_064_0928_021_0930_173_0924_023_0925_172_0449_181_0448_212, 0919_027⟩,
  ⟨13, 0908_012_0449_082_0931_072_0916_074_0917_075_0918_076_0912_065_0913_066_0002_002_0909_063_0910_064_0911_021_0919_173_0920_078_0921_079_0914_023_0915_172_0448_213, 0909_027⟩,
  ⟨15, 0922_012_0449_082_0932_072_0933_073_0934_074_0935_075_0936_076_0929_065_0923_066_0002_002_0926_063_0927_064_0928_021_0930_173_0937_078_0938_079_0924_023_0925_172_0448_214, 0919_027⟩,
  ⟨15, 0922_012_0939_082_0932_072_0933_073_0934_074_0935_075_0936_076_0929_065_0923_066_0940_083_0002_002_0926_063_0927_064_0928_021_0930_173_0937_078_0938_079_0924_023_0925_172_0466_215, 0919_027⟩,
  ⟨15, 0922_012_0939_082_0932_072_0933_073_0934_074_0935_075_0936_076_0929_065_0923_066_0940_083_0002_002_0926_063_0927_064_0928_021_0930_173_0937_078_0938_079_0924_023_0925_172_0472_215, 0919_027⟩,
  ⟨13, 0908_012_0912_065_0913_066_0002_002_0909_063_0911_021_0914_023_0449_169_0448_216, 0909_027⟩,
  ⟨13, 0908_012_0912_065_0913_066_0002_002_0909_063_0910_064_0911_021_0919_173_0920_078_0921_079_0914_023_0915_172_0449_177_0448_217, 0909_027⟩,
  ⟨13, 0908_012_0916_074_0912_065_0913_066_0002_002_0909_063_0449_178_0910_064_0911_021_0919_173_0920_078_0921_079_0914_023_0915_172_0448_217, 0909_027⟩,
  ⟨13, 0908_012_0916_074_0917_075_0912_065_0913_066_0002_002_0909_063_0449_178_0910_064_0911_021_0919_173_0920_078_0921_079_0914_023_0915_172_0448_208, 0909_027⟩,
  ⟨13, 0908_012_0912_065_0913_066_0002_002_0909_063_0914_023_0449_179_0448_216, 0909_027⟩,
  ⟨13, 0908_012_0913_066_0002_002_0914_023_0449_166_0448_207, 0909_027⟩,
  ⟨13, 0908_012_0912_065_0913_066_0002_002_0909_063_0910_064_0911_021_0919_173_0914_023_0915_172_0449_181_0448_218, 0909_027⟩,
  ⟨13, 0908_012_0449_082_0931_072_0941_073_0916_074_0917_075_0918_076_0912_065_0913_066_0002_002_0909_063_0910_064_0911_021_0919_173_0920_078_0921_079_0914_023_0915_172_0448_219, 0909_027⟩,
  ⟨13, 0908_012_0002_002_0914_023_0481_166_0480_220, 0909_027⟩,
  ⟨23, 0942_106_0870_012_0886_082_0875_072_0876_073_0878_074_0879_075_0880_076_0882_065_0871_066_0887_083_0002_002_0874_063_0877_064_0881_021_0883_173_0884_078_0885_079_0872_023_0873_172_0894_143, 0801_027_1089_036⟩,
  ⟨13, 0908_012_0943_082_0931_072_0941_073_0916_074_0917_075_0918_076_0912_065_0913_066_0944_083_0002_002_0909_063_0910_064_0911_021_0919_173_0920_078_0921_079_0914_023_0915_172_0466_221, 0909_027⟩,
  ⟨13, 0908_012_0943_082_0931_072_0941_073_0916_074_0917_075_0918_076_0912_065_0913_066_0944_083_0002_002_0909_063_0910_064_0911_021_0919_173_0920_078_0921_079_0914_023_0915_172_0472_221, 0909_027⟩,
  ⟨13, 0908_012_0943_082_0931_072_0941_073_0916_074_0917_075_0918_076_0912_065_0913_066_0944_083_0002_002_0909_063_0910_064_0911_021_0919_173_0920_078_0921_079_0914_023_0915_172_0474_221, 0909_027⟩,
  ⟨13, 0908_012_0002_002_0483_166_0482_222, 0909_027⟩,
  ⟨15, 0922_012_0449_082_0932_072_0934_074_0935_075_0936_076_0929_065_0923_066_0002_002_0926_063_0927_064_0928_021_0930_173_0937_078_0938_079_0924_023_0925_172_0448_223, 0919_027⟩,
  ⟨15, 0922_012_0449_082_0934_074_0935_075_0936_076_0929_065_0923_066_0002_002_0926_063_0927_064_0928_021_0930_173_0937_078_0938_079_0924_023_0925_172_0448_224, 0919_027⟩,
  ⟨22, 0002_002_0477_166_0476_225, 0⟩,
  ⟨13, 0908_012_0943_082_0931_072_0941_073_0916_074_0917_075_0918_076_0912_065_0913_066_0944_083_0002_002_0909_063_0910_064_0911_021_0919_173_0920_078_0921_079_0914_023_0915_172_0478_221, 0909_027⟩,
  ⟨15, 0922_012_0929_065_0923_066_0002_002_0926_063_0928_021_0924_023_0449_169_0448_226, 0919_027⟩,
  ⟨13, 0908_012_0002_002_0914_023_0485_166_0484_220, 0909_027⟩,
  ⟨15, 0922_012_0939_082_0932_072_0933_073_0934_074_0935_075_0936_076_0929_065_0923_066_0940_083_0002_002_0926_063_0927_064_0928_021_0930_173_0937_078_0938_079_0924_023_0925_172_0474_215, 0919_027⟩,
  ⟨16, 0903_012_0905_065_0906_066_0002_002_0904_063_0945_064_0946_021_0907_023_0449_169_0448_227, 0900_027⟩,
  ⟨16, 0903_012_0906_066_0002_002_0907_023_0449_166_0448_228, 0900_027⟩,
  ⟨16, 0903_012_0449_082_0948_074_0949_075_0950_076_0905_065_0906_066_0002_002_0904_063_0945_064_0946_021_0951_173_0952_078_0953_079_0907_023_0947_172_0448_229, 0900_027⟩,
  ⟨16, 0903_012_0449_082_0954_072_0948_074_0949_075_0950_076_0905_065_0906_066_0002_002_0904_063_0945_064_0946_021_0951_173_0952_078_0953_079_0907_023_0947_172_0448_230, 0900_027⟩,
  ⟨16, 0903_012_0905_065_0906_066_0002_002_0904_063_0946_021_0907_023_0449_169_0448_205, 0900_027⟩,
  ⟨16, 0903_012_0905_065_0906_066_0002_002_0904_063_0945_064_0946_021_0951_173_0952_078_0953_079_0907_023_0947_172_0449_177_0448_231, 0900_027⟩,
  ⟨16, 0903_012_0948_074_0905_065_0906_066_0002_002_0904_063_0449_178_0945_064_0946_021_0951_173_0952_078_0953_079_0907_023_0947_172_0448_231, 0900_027⟩,
  ⟨16, 0903_012_0948_074_0949_075_0905_065_0906_066_0002_002_0904_063_0449_178_0945_064_0946_021_0951_173_0952_078_0953_079_0907_023_0947_172_0448_229, 0900_027⟩,
  ⟨16, 0903_012_0955_082_0954_072_0956_073_0948_074_0949_075_0950_076_0905_065_0906_066_0957_083_0002_002_0904_063_0945_064_0946_021_0951_173_0952_078_0953_079_0907_023_0947_172_0478_232, 0900_027⟩,
  ⟨16, 0903_012_0906_066_0002_002_0907_023_0449_166_0448_228, 0900_027⟩,
  ⟨16, 0903_012_0905_065_0906_066_0002_002_0904_063_0945_064_0946_021_0951_173_0907_023_0947_172_0449_181_0448_233, 0900_027⟩,
  ⟨16, 0903_012_0449_082_0954_072_0956_073_0948_074_0949_075_0950_076_0905_065_0906_066_0002_002_0904_063_0945_064_0946_021_0951_173_0952_078_0953_079_0907_023_0947_172_0448_234, 0900_027⟩,
  ⟨15, 0922_012_0929_065_0923_066_0002_002_0926_063_0927_064_0928_021_0930_173_0937_078_0938_079_0924_023_0925_172_0449_177_0448_235, 0919_027⟩,
  ⟨15, 0922_012_0934_074_0929_065_0923_066_0002_002_0926_063_0449_178_0927_064_0928_021_0930_173_0937_078_0938_079_0924_023_0925_172_0448_235, 0919_027⟩,
  ⟨20, 0850_012_0867_082_0864_072_0865_073_0858_074_0859_075_0860_076_0855_065_0856_066_0868_083_0002_002_0852_063_0853_064_0854_021_0861_173_0862_078_0863_079_0851_023_0857_172_0958_236, 0738_027⟩,
  ⟨15, 0922_012_0929_065_0923_066_0002_002_0926_063_0927_064_0928_021_0924_023_0449_169_0448_237, 0919_027⟩,
  ⟨16, 0903_012_0955_082_0954_072_0956_073_0948_074_0949_075_0950_076_0905_065_0906_066_0957_083_0002_002_0904_063_0945_064_0946_021_0951_173_0952_078_0953_079_0907_023_0947_172_0466_232, 0900_027⟩,
  ⟨16, 0903_012_0955_082_0954_072_0956_073_0948_074_0949_075_0950_076_0905_065_0906_066_0957_083_0002_002_0904_063_0945_064_0946_021_0951_173_0952_078_0953_079_0907_023_0947_172_0472_232, 0900_027⟩,
  ⟨16, 0903_012_0955_082_0954_072_0956_073_0948_074_0949_075_0950_076_0905_065_0906_066_0957_083_0002_002_0904_063_0945_064_0946_021_0951_173_0952_078_0953_079_0907_023_0947_172_0474_232, 0900_027⟩,
  ⟨15, 0922_012_0934_074_0935_075_0929_065_0923_066_0002_002_0926_063_0449_178_0927_064_0928_021_0930_173_0937_078_0938_079_0924_023_0925_172_0448_224, 0919_027⟩,
  ⟨15, 0922_012_0929_065_0923_066_0002_002_0926_063_0924_023_0449_179_0448_226, 0919_027⟩,
  ⟨15, 0922_012_0939_082_0932_072_0933_073_0934_074_0935_075_0936_076_0929_065_0923_066_0940_083_0002_002_0926_063_0927_064_0928_021_0930_173_0937_078_0938_079_0924_023_0925_172_0478_215, 0919_027⟩,
  ⟨19, 0002_002_0477_166_0476_238, 0⟩,
  ⟨15, 0922_012_0002_002_0924_023_0481_166_0480_239, 0919_027⟩,
  ⟨15, 0922_012_0002_002_0483_166_0482_240, 0919_027⟩,
  ⟨15, 0922_012_0002_002_0924_023_0485_166_0484_239, 0919_027⟩,
  ⟨15, 0922_012_0923_066_0002_002_0924_023_0449_166_0448_211, 0919_027⟩,
  ⟨21, 0002_002_0477_166_0476_241, 0⟩,
  ⟨13, 0002_002_0553_166_0552_202, 0⟩,
  ⟨15, 0002_002_0505_166_0504_204, 0⟩,
  ⟨13, 0959_103_0960_020_0961_104_0002_002_0561_166_0560_242, 0⟩,
  ⟨15, 0002_002_0471_166_0470_204, 0⟩,
  ⟨13, 0002_002_0507_166_0506_202, 0⟩,
  ⟨15, 0002_002_0521_166_0520_204, 0⟩]

/-- Parse states from 896 on. -/
def states14 : Array StateRow := #[
  ⟨13, 0002_002_0509_166_0508_202, 0⟩,
  ⟨13, 0002_002_0511_166_0510_202, 0⟩,
  ⟨15, 0002_002_0523_166_0522_204, 0⟩,
  ⟨16, 0002_002_0533_166_0532_200, 0⟩,
  ⟨16, 0002_002_0555_166_0554_200, 0⟩,
  ⟨15, 0002_002_0525_166_0524_204, 0⟩,
  ⟨15, 0002_002_0489_166_0488_204, 0⟩,
  ⟨15, 0002_002_0527_166_0526_204, 0⟩,
  ⟨15, 0002_002_0503_166_0502_204, 0⟩,
  ⟨16, 0002_002_0497_166_0496_200, 0⟩,
  ⟨15, 0002_002_0513_166_0512_204, 0⟩,
  ⟨16, 0002_002_0499_166_0498_200, 0⟩,
  ⟨13, 0002_002_0533_166_0532_202, 0⟩,
  ⟨13, 0002_002_0555_166_0554_202, 0⟩,
  ⟨13, 0002_002_0513_166_0512_202, 0⟩,
  ⟨23, 0567_106_0870_012_0886_082_0875_072_0876_073_0878_074_0879_075_0880_076_0882_065_0871_066_0887_083_0002_002_0874_063_0877_064_0881_021_0883_173_0884_078_0885_079_0872_023_0873_172_0565_143, 0801_027⟩,
  ⟨16, 0002_002_0501_166_0500_200, 0⟩,
  ⟨23, 0572_106_0870_012_0886_082_0875_072_0876_073_0878_074_0879_075_0880_076_0882_065_0871_066_0887_083_0002_002_0874_063_0877_064_0881_021_0883_173_0884_078_0885_079_0872_023_0873_172_0575_143, 0801_027⟩,
  ⟨13, 0002_002_0497_166_0496_202, 0⟩,
  ⟨16, 0002_002_0471_166_0470_200, 0⟩,
  ⟨16, 0002_002_0505_166_0504_200, 0⟩,
  ⟨13, 0002_002_0499_166_0498_202, 0⟩,
  ⟨13, 0002_002_0501_166_0500_202, 0⟩,
  ⟨15, 0002_002_0555_166_0554_204, 0⟩,
  ⟨13, 0002_002_0505_166_0504_202, 0⟩,
  ⟨15, 0002_002_0515_166_0514_204, 0⟩,
  ⟨15, 0002_002_0499_166_0498_204, 0⟩,
  ⟨15, 0002_002_0535_166_0534_204, 0⟩,
  ⟨15, 0002_002_0487_166_0486_204, 0⟩,
  ⟨15, 0002_002_0501_166_0500_204, 0⟩,
  ⟨15, 0002_002_0549_166_0548_204, 0⟩,
  ⟨23, 0870_012_0886_082_0875_072_0876_073_0878_074_0879_075_0880_076_0882_065_0871_066_0887_083_0002_002_0874_063_0877_064_0881_021_0883_173_0884_078_0885_079_0872_023_0873_172_0958_243, 0801_027⟩,
  ⟨16, 0962_103_0963_020_0964_104_0002_002_0561_166_0560_244, 0⟩,
  ⟨13, 0002_002_0503_166_0502_202, 0⟩,
  ⟨16, 0002_002_0503_166_0502_200, 0⟩,
  ⟨15, 0002_002_0551_166_0550_204, 0⟩,
  ⟨15, 0002_002_0553_166_0552_204, 0⟩,
  ⟨13, 0002_002_0515_166_0514_202, 0⟩,
  ⟨13, 0002_002_0519_166_0518_202, 0⟩,
  ⟨13, 0002_002_0521_166_0520_202, 0⟩,
  ⟨13, 0002_002_0523_166_0522_202, 0⟩,
  ⟨13, 0002_002_0525_166_0524_202, 0⟩,
  ⟨13, 0002_002_0527_166_0526_202, 0⟩,
  ⟨16, 0002_002_0507_166_0506_200, 0⟩,
  ⟨15, 0002_002_0509_166_0508_204, 0⟩,
  ⟨15, 0002_002_0511_166_0510_204, 0⟩,
  ⟨13, 0002_002_0535_166_0534_202, 0⟩,
  ⟨13, 0002_002_0487_166_0486_202, 0⟩,
  ⟨13, 0002_002_0549_166_0548_202, 0⟩,
  ⟨13, 0002_002_0551_166_0550_202, 0⟩,
  ⟨16, 0002_002_0509_166_0508_200, 0⟩,
  ⟨16, 0002_002_0519_166_0518_200, 0⟩,
  ⟨15, 0002_002_0517_166_0516_204, 0⟩,
  ⟨16, 0002_002_0521_166_0520_200, 0⟩,
  ⟨13, 0002_002_0557_166_0556_202, 0⟩,
  ⟨13, 0002_002_0559_166_0558_202, 0⟩,
  ⟨13, 0002_002_0517_166_0516_202, 0⟩,
  ⟨13, 0002_002_0489_166_0488_202, 0⟩,
  ⟨13, 0002_002_0491_166_0490_202, 0⟩,
  ⟨15, 0002_002_0533_166_0532_204, 0⟩,
  ⟨15, 0002_002_0497_166_0496_204, 0⟩,
  ⟨13, 0002_002_0493_166_0492_202, 0⟩,
  ⟨13, 0002_002_0495_166_0494_202, 0⟩,
  ⟨16, 0002_002_0523_166_0522_200, 0⟩]

/-- Parse states from 960 on. -/
def states15 : Array StateRow := #[
  ⟨15, 0002_002_0491_166_0490_204, 0⟩,
  ⟨15, 0002_002_0493_166_0492_204, 0⟩,
  ⟨16, 0002_002_0525_166_0524_200, 0⟩,
  ⟨15, 0002_002_0495_166_0494_204, 0⟩,
  ⟨16, 0002_002_0527_166_0526_200, 0⟩,
  ⟨15, 0002_002_0519_166_0518_204, 0⟩,
  ⟨23, 0567_106_0870_012_0886_082_0875_072_0876_073_0878_074_0879_075_0880_076_0882_065_0871_066_0887_083_0002_002_0874_063_0877_064_0881_021_0883_173_0884_078_0885_079_0872_023_0873_172_0573_143, 0801_027⟩,
  ⟨15, 0002_002_0557_166_0556_204, 0⟩,
  ⟨23, 0572_106_0870_012_0886_082_0875_072_0876_073_0878_074_0879_075_0880_076_0882_065_0871_066_0887_083_0002_002_0874_063_0877_064_0881_021_0883_173_0884_078_0885_079_0872_023_0873_172_0570_143, 0801_027⟩,
  ⟨16, 0002_002_0511_166_0510_200, 0⟩,
  ⟨15, 0002_002_0559_166_0558_204, 0⟩,
  ⟨16, 0002_002_0535_166_0534_200, 0⟩,
  ⟨16, 0002_002_0487_166_0486_200, 0⟩,
  ⟨16, 0002_002_0549_166_0548_200, 0⟩,
  ⟨16, 0002_002_0551_166_0550_200, 0⟩,
  ⟨16, 0002_002_0553_166_0552_200, 0⟩,
  ⟨15, 0965_103_0966_020_0967_104_0002_002_0561_166_0560_245, 0⟩,
  ⟨16, 0002_002_0557_166_0556_200, 0⟩,
  ⟨16, 0002_002_0559_166_0558_200, 0⟩,
  ⟨15, 0002_002_0507_166_0506_204, 0⟩,
  ⟨16, 0002_002_0517_166_0516_200, 0⟩,
  ⟨16, 0002_002_0489_166_0488_200, 0⟩,
  ⟨16, 0002_002_0491_166_0490_200, 0⟩,
  ⟨16, 0002_002_0493_166_0492_200, 0⟩,
  ⟨16, 0002_002_0495_166_0494_200, 0⟩,
  ⟨13, 0002_002_0471_166_0470_202, 0⟩,
  ⟨16, 0002_002_0513_166_0512_200, 0⟩,
  ⟨16, 0002_002_0515_166_0514_200, 0⟩,
  ⟨20, 0968_106_0850_012_0969_146_0867_082_0864_072_0865_073_0858_074_0859_075_0860_076_0855_065_0856_066_0868_083_0002_002_0852_063_0853_064_0854_021_0861_173_0862_078_0863_079_0851_023_0857_172, 0738_027_1085_036⟩,
  ⟨24, 0970_106_0922_012_0939_082_0932_072_0933_073_0934_074_0935_075_0936_076_0929_065_0923_066_0940_083_0002_002_0894_246_0926_063_0927_064_0928_021_0930_173_0937_078_0938_079_0924_023_0925_172, 0919_027_1126_036⟩,
  ⟨20, 0850_012_0867_082_0864_072_0865_073_0858_074_0859_075_0860_076_0855_065_0856_066_0868_083_0002_002_0852_063_0853_064_0854_021_0861_173_0862_078_0863_079_0851_023_0971_247_0857_172, 0738_027⟩,
  ⟨25, 0972_106_0903_012_0955_082_0954_072_0956_073_0948_074_0949_075_0950_076_0905_065_0906_066_0957_083_0002_002_0894_248_0904_063_0945_064_0946_021_0951_173_0952_078_0953_079_0907_023_0947_172, 0900_027_1139_036⟩,
  ⟨20, 0973_106_0850_012_0974_152_0867_082_0864_072_0865_073_0858_074_0859_075_0860_076_0855_065_0856_066_0868_083_0002_002_0852_063_0853_064_0854_021_0861_173_0862_078_0863_079_0851_023_0857_172, 0738_027⟩,
  ⟨26, 0908_012_0943_082_0931_072_0941_073_0916_074_0917_075_0918_076_0912_065_0913_066_0944_083_0002_002_0975_249_0909_063_0910_064_0911_021_0919_173_0920_078_0921_079_0914_023_0915_172, 0909_027⟩,
  ⟨20, 0973_106_0850_012_0976_152_0867_082_0864_072_0865_073_0858_074_0859_075_0860_076_0855_065_0856_066_0868_083_0002_002_0852_063_0853_064_0854_021_0861_173_0862_078_0863_079_0851_023_0857_172, 0738_027⟩,
  ⟨20, 0973_106_0850_012_0977_152_0867_082_0864_072_0865_073_0858_074_0859_075_0860_076_0855_065_0856_066_0868_083_0002_002_0852_063_0853_064_0854_021_0861_173_0862_078_0863_079_0851_023_0857_172, 0738_027⟩,
  ⟨20, 0973_106_0850_012_0978_152_0867_082_0864_072_0865_073_0858_074_0859_075_0860_076_0855_065_0856_066_0868_083_0002_002_0852_063_0853_064_0854_021_0861_173_0862_078_0863_079_0851_023_0857_172, 0738_027⟩,
  ⟨20, 0973_106_0850_012_0979_152_0867_082_0864_072_0865_073_0858_074_0859_075_0860_076_0855_065_0856_066_0868_083_0002_002_0852_063_0853_064_0854_021_0861_173_0862_078_0863_079_0851_023_0857_172, 0738_027⟩,
  ⟨20, 0973_106_0850_012_0980_152_0867_082_0864_072_0865_073_0858_074_0859_075_0860_076_0855_065_0856_066_0868_083_0002_002_0852_063_0853_064_0854_021_0861_173_0862_078_0863_079_0851_023_0857_172, 0738_027⟩,
  ⟨20, 0973_106_0850_012_0981_152_0867_082_0864_072_0865_073_0858_074_0859_075_0860_076_0855_065_0856_066_0868_083_0002_002_0852_063_0853_064_0854_021_0861_173_0862_078_0863_079_0851_023_0857_172, 0738_027⟩,
  ⟨25, 0903_012_0955_082_0954_072_0956_073_0948_074_0949_075_0950_076_0905_065_0906_066_0957_083_0002_002_0958_250_0904_063_0945_064_0946_021_0951_173_0952_078_0953_079_0907_023_0947_172, 0900_027⟩,
  ⟨20, 0973_106_0850_012_0982_152_0867_082_0864_072_0865_073_0858_074_0859_075_0860_076_0855_065_0856_066_0868_083_0002_002_0852_063_0853_064_0854_021_0861_173_0862_078_0863_079_0851_023_0857_172, 0738_027⟩,
  ⟨20, 0973_106_0850_012_0983_152_0867_082_0864_072_0865_073_0858_074_0859_075_0860_076_0855_065_0856_066_0868_083_0002_002_0852_063_0853_064_0854_021_0861_173_0862_078_0863_079_0851_023_0857_172, 0738_027⟩,
  ⟨26, 0908_012_0943_082_0931_072_0941_073_0916_074_0917_075_0918_076_0912_065_0913_066_0944_083_0002_002_0984_249_0909_063_0910_064_0911_021_0919_173_0920_078_0921_079_0914_023_0915_172, 0909_027⟩,
  ⟨20, 0973_106_0850_012_0985_152_0867_082_0864_072_0865_073_0858_074_0859_075_0860_076_0855_065_0856_066_0868_083_0002_002_0852_063_0853_064_0854_021_0861_173_0862_078_0863_079_0851_023_0857_172, 0738_027⟩,
  ⟨20, 0973_106_0850_012_0986_152_0867_082_0864_072_0865_073_0858_074_0859_075_0860_076_0855_065_0856_066_0868_083_0002_002_0852_063_0853_064_0854_021_0861_173_0862_078_0863_079_0851_023_0857_172, 0738_027⟩,
  ⟨20, 0973_106_0850_012_0987_152_0867_082_0864_072_0865_073_0858_074_0859_075_0860_076_0855_065_0856_066_0868_083_0002_002_0852_063_0853_064_0854_021_0861_173_0862_078_0863_079_0851_023_0857_172, 0738_027⟩,
  ⟨20, 0973_106_0850_012_0988_152_0867_082_0864_072_0865_073_0858_074_0859_075_0860_076_0855_065_0856_066_0868_083_0002_002_0852_063_0853_064_0854_021_0861_173_0862_078_0863_079_0851_023_0857_172, 0738_027⟩,
  ⟨24, 0922_012_0939_082_0932_072_0933_073_0934_074_0935_075_0936_076_0929_065_0923_066_0940_083_0002_002_0958_251_0926_063_0927_064_0928_021_0930_173_0937_078_0938_079_0924_023_0925_172, 0919_027⟩,
  ⟨20, 0850_012_0867_082_0864_072_0865_073_0858_074_0859_075_0860_076_0855_065_0856_066_0868_083_0002_002_0989_252_0852_063_0853_064_0854_021_0861_173_0862_078_0863_079_0851_023_0857_172, 0738_027⟩,
  ⟨20, 0572_106_0575_139_0850_012_0867_082_0864_072_0865_073_0858_074_0859_075_0860_076_0855_065_0856_066_0868_083_0002_002_0852_063_0853_064_0854_021_0861_173_0862_078_0863_079_0851_023_0857_172, 0738_027⟩,
  ⟨26, 0908_012_0943_082_0931_072_0941_073_0916_074_0917_075_0918_076_0912_065_0913_066_0944_083_0002_002_0971_249_0909_063_0910_064_0911_021_0919_173_0920_078_0921_079_0914_023_0915_172, 0909_027⟩,
  ⟨20, 0572_106_0570_139_0850_012_0867_082_0864_072_0865_073_0858_074_0859_075_0860_076_0855_065_0856_066_0868_083_0002_002_0852_063_0853_064_0854_021_0861_173_0862_078_0863_079_0851_023_0857_172, 0738_027⟩,
  ⟨20, 0973_106_0850_012_0990_152_0867_082_0864_072_0865_073_0858_074_0859_075_0860_076_0855_065_0856_066_0868_083_0002_002_0852_063_0853_064_0854_021_0861_173_0862_078_0863_079_0851_023_0857_172, 0738_027⟩,
  ⟨20, 0991_044_0850_012_0867_082_0864_072_0865_073_0858_074_0859_075_0860_076_0855_065_0856_066_0868_083_0002_002_0852_063_0853_064_0854_021_0861_173_0862_078_0863_079_0851_023_0857_172, 0738_027⟩,
  ⟨20, 0572_106_0850_012_0867_082_0864_072_0865_073_0858_074_0859_075_0860_076_0855_065_0856_066_0868_083_0002_002_0852_063_0853_064_0854_021_0861_173_0862_078_0863_079_0851_023_0857_172, 0738_027⟩,
  ⟨20, 0992_044_0850_012_0867_082_0864_072_0865_073_0858_074_0859_075_0860_076_0855_065_0856_066_0868_083_0002_002_0852_063_0853_064_0854_021_0861_173_0862_078_0863_079_0851_023_0857_172, 0738_027⟩,
  ⟨20, 0993_044_0850_012_0867_082_0864_072_0865_073_0858_074_0859_075_0860_076_0855_065_0856_066_0868_083_0002_002_0852_063_0853_064_0854_021_0861_173_0862_078_0863_079_0851_023_0857_172, 0738_027⟩,
  ⟨20, 0994_044_0850_012_0867_082_0864_072_0865_073_0858_074_0859_075_0860_076_0855_065_0856_066_0868_083_0002_002_0852_063_0853_064_0854_021_0861_173_0862_078_0863_079_0851_023_0857_172, 0738_027⟩,
  ⟨20, 0567_106_0850_012_0867_082_0864_072_0865_073_0858_074_0859_075_0860_076_0855_065_0856_066_0868_083_0002_002_0852_063_0853_064_0854_021_0861_173_0862_078_0863_079_0851_023_0857_172, 0738_027⟩,
  ⟨20, 0995_044_0850_012_0867_082_0864_072_0865_073_0858_074_0859_075_0860_076_0855_065_0856_066_0868_083_0002_002_0852_063_0853_064_0854_021_0861_173_0862_078_0863_079_0851_023_0857_172, 0738_027⟩,
  ⟨20, 0996_044_0850_012_0867_082_0864_072_0865_073_0858_074_0859_075_0860_076_0855_065_0856_066_0868_083_0002_002_0852_063_0853_064_0854_021_0861_173_0862_078_0863_079_0851_023_0857_172, 0738_027⟩,
  ⟨20, 0997_044_0850_012_0867_082_0864_072_0865_073_0858_074_0859_075_0860_076_0855_065_0856_066_0868_083_0002_002_0852_063_0853_064_0854_021_0861_173_0862_078_0863_079_0851_023_0857_172, 0738_027⟩,
  ⟨20, 0973_106_0850_012_0867_082_0864_072_0865_073_0858_074_0859_075_0860_076_0855_065_0856_066_0868_083_0002_002_0852_063_0853_064_0854_021_0861_173_0862_078_0863_079_0851_023_0857_172, 0738_027⟩]

/-- Parse states from 1024 on. -/
def states16 : Array StateRow := #[
  ⟨14, 0002_002_0998_253_0999_254, 0⟩,
  ⟨14, 0002_002_1000_253_1001_254, 0⟩,
  ⟨20, 1002_049_0002_002_1003_050, 0⟩,
  ⟨20, 1004_049_0002_002_1005_050, 0⟩,
  ⟨20, 1006_049_0002_002_1007_050, 0⟩,
  ⟨20, 1008_049_0002_002_1009_050, 0⟩,
  ⟨20, 1010_049_0002_002_1011_050, 0⟩,
  ⟨20, 1012_049_0002_002_1013_050, 0⟩,
  ⟨20, 1014_049_0002_002_1015_050, 0⟩,
  ⟨27, 1016_003_0063_031_1017_032_1018_020_0002_002_1019_033, 1216_021_1163_022_1434_023_1243_019⟩,
  ⟨27, 1016_003_0063_031_1020_032_1018_020_0002_002_1019_033, 1216_021_1221_022_1434_023_1243_019⟩,
  ⟨27, 1016_003_0063_031_1021_032_1018_020_0002_002_1019_033, 1216_021_1221_022_1434_023_1243_019⟩,
  ⟨27, 1016_003_0063_031_1022_032_1018_020_0002_002_1019_033, 1216_021_1221_022_1434_023_1243_019⟩,
  ⟨27, 1016_003_0063_031_1023_032_1018_020_0002_002_1019_033, 1216_021_1171_022_1434_023_1243_019⟩,
  ⟨28, 1024_007_1025_008_1026_013_1027_014_1028_255_0002_002, 0703_003_0704_004_0705_012_0706_037⟩,
  ⟨27, 1016_003_0063_031_1029_032_1018_020_0002_002_1019_033, 1216_021_1141_022_1434_023_1243_019⟩,
  ⟨27, 1016_003_0063_031_1030_032_1018_020_0002_002_1019_033, 1216_021_1221_022_1434_023_1243_019⟩,
  ⟨28, 1031_007_1032_008_1033_013_1034_014_1035_255_0002_002, 0434_003_0399_004_0403_012_0389_037⟩,
  ⟨27, 1016_003_0063_031_1036_032_1018_020_0002_002_1019_033, 1216_021_1221_022_1434_023_1243_019⟩,
  ⟨27, 1016_003_0063_031_1037_032_1018_020_0002_002_1019_033, 1216_021_1155_022_1434_023_1243_019⟩,
  ⟨27, 1016_003_0063_031_1038_032_1018_020_0002_002_1019_033, 1216_021_1221_022_1434_023_1243_019⟩,
  ⟨27, 1016_003_0063_031_1039_032_1018_020_0002_002_1019_033, 1216_021_1221_022_1434_023_1243_019⟩,
  ⟨27, 1016_003_0063_031_1040_032_1018_020_0002_002_1019_033, 1216_021_1153_022_1434_023_1243_019⟩,
  ⟨27, 1016_003_0063_031_1041_032_1018_020_0002_002_1019_033, 1216_021_1221_022_1434_023_1243_019⟩,
  ⟨27, 1016_003_0063_031_1042_032_1018_020_0002_002_1019_033, 1216_021_1149_022_1434_023_1243_019⟩,
  ⟨27, 1016_003_0063_031_1043_032_1018_020_0002_002_1019_033, 1216_021_1221_022_1434_023_1243_019⟩,
  ⟨27, 1016_003_0063_031_1044_032_1018_020_0002_002_1019_033, 1216_021_1221_022_1434_023_1243_019⟩,
  ⟨27, 1016_003_0063_031_1045_032_1018_020_0002_002_1019_033, 1216_021_1130_022_1434_023_1243_019⟩,
  ⟨27, 1016_003_0063_031_1046_032_1018_020_0002_002_1019_033, 1216_021_1221_022_1434_023_1243_019⟩,
  ⟨27, 1016_003_0063_031_1047_032_1018_020_0002_002_1019_033, 1216_021_1221_022_1434_023_1243_019⟩,
  ⟨27, 1016_003_0063_031_1048_032_1018_020_0002_002_1019_033, 1216_021_1221_022_1434_023_1243_019⟩,
  ⟨27, 1016_003_0063_031_1049_032_1018_020_0002_002_1019_033, 1216_021_1221_022_1434_023_1243_019⟩,
  ⟨29, 1016_003_0063_031_1018_020_0002_002_1019_033, 1216_021_1221_022_1434_023_1243_019⟩,
  ⟨28, 1050_003_1051_014_1052_256_0002_002, 1466_038_1304_039_1202_040_1205_019⟩,
  ⟨28, 1050_003_1051_014_1052_256_0002_002, 1331_038_1332_039_1220_040_1205_019⟩,
  ⟨30, 1050_003_1053_152_1054_031_0002_002, 1270_041_1223_019_1118_042⟩,
  ⟨20, 1055_106_0002_002_1056_201, 1060_036⟩,
  ⟨31, 1057_003_1058_255_0002_002_1059_033, 1299_043_1254_019_1061_044⟩,
  ⟨26, 1060_032_1061_257_1062_255_0002_002, 1137_045_1138_046_1080_047⟩,
  ⟨30, 1050_003_1063_152_1054_031_0002_002, 1336_041_1223_019_1118_042⟩,
  ⟨31, 0830_003_1064_255_0002_002_1065_033, 1222_043_1180_019_1086_044⟩,
  ⟨26, 1066_032_1061_257_1062_255_0002_002, 1137_045_1138_046_1062_047⟩,
  ⟨30, 1050_003_1067_152_1054_031_0002_002, 1281_041_1223_019_1118_042⟩,
  ⟨30, 1050_003_1068_152_1054_031_0002_002, 1353_041_1223_019_1118_042⟩,
  ⟨30, 1050_003_1069_152_1054_031_0002_002, 1421_041_1223_019_1118_042⟩,
  ⟨30, 1050_003_1070_152_1054_031_0002_002, 1427_041_1223_019_1118_042⟩,
  ⟨30, 1050_003_1071_152_1054_031_0002_002, 1430_041_1223_019_1118_042⟩,
  ⟨30, 1050_003_1072_152_1054_031_0002_002, 1431_041_1223_019_1118_042⟩,
  ⟨26, 1073_032_1061_257_1062_255_0002_002, 1137_045_1138_046_1080_047⟩,
  ⟨30, 1050_003_1074_152_1054_031_0002_002, 1436_041_1223_019_1118_042⟩,
  ⟨30, 1050_003_1075_152_1054_031_0002_002, 1438_041_1223_019_1118_042⟩,
  ⟨26, 1076_032_1061_257_1062_255_0002_002, 1137_045_1138_046_1072_047⟩,
  ⟨30, 1050_003_1077_152_1054_031_0002_002, 1441_041_1223_019_1118_042⟩,
  ⟨30, 1050_003_1078_152_1054_031_0002_002, 1443_041_1223_019_1118_042⟩,
  ⟨30, 1050_003_1079_152_1054_031_0002_002, 1446_041_1223_019_1118_042⟩,
  ⟨30, 1050_003_1080_152_1054_031_0002_002, 1448_041_1223_019_1118_042⟩,
  ⟨26, 1081_032_1082_257_1083_255_0002_002, 1137_045_1138_046_1080_047⟩,
  ⟨30, 1050_003_1084_152_1054_031_0002_002, 1266_041_1223_019_1118_042⟩,
  ⟨30, 1050_003_1085_152_1054_031_0002_002, 1453_041_1223_019_1118_042⟩,
  ⟨30, 1050_003_1086_152_1054_031_0002_002, 1456_041_1223_019_1118_042⟩,
  ⟨30, 1050_003_1087_152_1054_031_0002_002, 1458_041_1223_019_1118_042⟩,
  ⟨20, 0893_106_0002_002_1088_201, 1060_036⟩,
  ⟨31, 0830_003_1064_255_0002_002_1065_033, 1249_043_1180_019_1061_044⟩,
  ⟨20, 1089_003_0908_012_1090_020_0002_002, 0929_027_0380_023⟩]

/-- Parse states from 1088 on. -/
def states17 : Array StateRow := #[
  ⟨23, 1091_049_0628_106_0002_002_0625_143, 0⟩,
  ⟨23, 0942_106_0002_002_1088_143, 1096_036⟩,
  ⟨20, 1092_003_0577_012_1093_020_0002_002, 0270_027_0170_023⟩,
  ⟨20, 1094_003_0870_012_1095_020_0002_002, 0787_027_0320_023⟩,
  ⟨20, 1096_003_0922_012_1097_020_0002_002, 0904_027_0355_023⟩,
  ⟨20, 1098_003_0850_012_1099_020_0002_002, 0741_027_0310_023⟩,
  ⟨23, 1100_049_0628_106_0002_002_0629_143, 0⟩,
  ⟨20, 1101_003_0903_012_1102_020_0002_002, 0930_027_0354_023⟩,
  ⟨23, 1103_106_0002_002_1056_143, 1096_036⟩,
  ⟨20, 1104_003_0450_012_1105_020_0002_002, 0206_027_0162_023⟩,
  ⟨30, 1106_003_1107_031_0002_002, 1377_019_1098_033⟩,
  ⟨23, 0002_002_1108_143, 0419_031⟩,
  ⟨20, 1109_003_0002_002, 1219_048_1129_019_1110_049⟩,
  ⟨23, 0002_002_1110_143, 0707_031⟩,
  ⟨28, 1051_014_1052_256_0002_002, 1350_038_1351_039⟩,
  ⟨23, 0002_002_1111_143, 0702_031⟩,
  ⟨23, 0002_002_1112_143, 0515_031⟩,
  ⟨20, 1114_036_0002_002_1113_258, 1105_024⟩,
  ⟨28, 1051_014_1052_256_0002_002, 1437_038_1439_039⟩,
  ⟨30, 1050_003_1115_031_0002_002, 1215_019_1098_033⟩,
  ⟨23, 0002_002_1116_143, 0396_031⟩,
  ⟨20, 1109_003_0002_002, 1237_048_1129_019_1112_049⟩,
  ⟨20, 1109_003_0002_002, 1255_048_1129_019_1116_049⟩,
  ⟨23, 0002_002_1117_143, 0392_031⟩,
  ⟨20, 1109_003_0002_002, 1248_048_1129_019_1116_049⟩,
  ⟨20, 1118_035_1119_036_1120_037_0002_002, 1105_024⟩,
  ⟨20, 1121_049_1122_106_1123_147_0625_139_0002_002, 0⟩,
  ⟨23, 0002_002_1124_143, 0410_031⟩,
  ⟨20, 1125_003_0002_002, 1402_048_1260_019_1116_049⟩,
  ⟨30, 1126_003_1127_031_0002_002, 1476_019_1117_042⟩,
  ⟨30, 1050_003_1128_031_0002_002, 1192_019_1117_042⟩,
  ⟨23, 0002_002_1129_143, 0513_031⟩,
  ⟨31, 0830_003_1130_255_0002_002_1131_033, 1231_019⟩,
  ⟨20, 1132_035_1119_036_1133_037_0002_002, 1105_024⟩,
  ⟨31, 0602_003_1134_255_0002_002_1135_033, 1307_019⟩,
  ⟨26, 0428_044_0002_002_0419_249, 0⟩,
  ⟨26, 1136_106_1036_032_0002_002, 1172_050⟩,
  ⟨20, 1137_106_1138_146_0002_002, 1125_051⟩,
  ⟨24, 0970_106_0002_002_1088_246, 1136_036⟩,
  ⟨20, 1050_003_0002_002, 1143_019_1160_052⟩,
  ⟨20, 1139_003_0002_002, 0480_019_1140_052⟩,
  ⟨26, 1141_259_0002_002_1140_249, 0⟩,
  ⟨26, 1142_106_1143_032_0002_002, 1133_050⟩,
  ⟨20, 1144_106_1145_146_0002_002, 1135_051⟩,
  ⟨25, 1146_106_0002_002_1056_248, 1132_036⟩,
  ⟨26, 1147_106_1047_032_0002_002, 1172_050⟩,
  ⟨20, 1148_003_0002_002, 1088_019_1168_052⟩,
  ⟨20, 1149_106_1150_146_0002_002, 1125_051⟩,
  ⟨24, 1151_106_0002_002_1056_246, 1136_036⟩,
  ⟨26, 0002_002_1152_260, 0⟩,
  ⟨26, 0002_002_1153_260, 0⟩,
  ⟨25, 0972_106_0002_002_1088_248, 1132_036⟩,
  ⟨20, 1139_003_0002_002, 0460_019_1160_052⟩,
  ⟨26, 1154_106_1155_032_0002_002, 1145_050⟩,
  ⟨20, 1156_106_1157_146_0002_002, 1146_051⟩,
  ⟨20, 1158_049_0628_106_0629_139_0002_002, 0⟩,
  ⟨20, 1159_106_1160_146_0002_002, 1125_051⟩,
  ⟨26, 1161_106_1030_032_0002_002, 1172_050⟩,
  ⟨20, 1162_106_1163_146_0002_002, 1125_051⟩,
  ⟨20, 1050_003_1164_012_0002_002, 1282_019⟩,
  ⟨20, 1050_003_1165_012_0002_002, 1365_019⟩,
  ⟨26, 1166_106_1167_032_0002_002, 1151_050⟩,
  ⟨20, 1168_106_1169_146_0002_002, 1152_051⟩,
  ⟨26, 1170_106_1043_032_0002_002, 1172_050⟩]

end Ucode.Grammar
