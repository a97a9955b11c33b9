/-!
Simple case folding, as runs. A run has its first code point in hexadecimal, its
length, the distance between its code points, and what is added to fold them.
-/

namespace JsonValidators.Unicode

/-- The runs, separated by blanks. -/
def foldingTable : List String := [
  "41/26/1/32 b5/1/1/775 c0/23/1/32 d8/7/1/32 100/24/2/1 132/3/2/1 139/8/2/1 14a/23/2/1",
  "178/1/1/-121 179/3/2/1 17f/1/1/-268 181/1/1/210 182/2/2/1 186/1/1/206 187/1/1/1 189/2/1/205",
  "18b/1/1/1 18e/1/1/79 18f/1/1/202 190/1/1/203 191/1/1/1 193/1/1/205 194/1/1/207 196/1/1/211",
  "197/1/1/209 198/1/1/1 19c/1/1/211 19d/1/1/213 19f/1/1/214 1a0/3/2/1 1a6/1/1/218 1a7/1/1/1",
  "1a9/1/1/218 1ac/1/1/1 1ae/1/1/218 1af/1/1/1 1b1/2/1/217 1b3/2/2/1 1b7/1/1/219 1b8/1/1/1",
  "1bc/1/1/1 1c4/1/1/2 1c5/1/1/1 1c7/1/1/2 1c8/1/1/1 1ca/1/1/2 1cb/9/2/1 1de/9/2/1 1f1/1/1/2",
  "1f2/2/2/1 1f6/1/1/-97 1f7/1/1/-56 1f8/20/2/1 220/1/1/-130 222/9/2/1 23a/1/1/10795 23b/1/1/1",
  "23d/1/1/-163 23e/1/1/10792 241/1/1/1 243/1/1/-195 244/1/1/69 245/1/1/71 246/5/2/1 345/1/1/116",
  "370/2/2/1 376/1/1/1 37f/1/1/116 386/1/1/38 388/3/1/37 38c/1/1/64 38e/2/1/63 391/17/1/32",
  "3a3/9/1/32 3c2/1/1/1 3cf/1/1/8 3d0/1/1/-30 3d1/1/1/-25 3d5/1/1/-15 3d6/1/1/-22 3d8/12/2/1",
  "3f0/1/1/-54 3f1/1/1/-48 3f4/1/1/-60 3f5/1/1/-64 3f7/1/1/1 3f9/1/1/-7 3fa/1/1/1 3fd/3/1/-130",
  "400/16/1/80 410/32/1/32 460/17/2/1 48a/27/2/1 4c0/1/1/15 4c1/7/2/1 4d0/48/2/1 531/38/1/48",
  "10a0/38/1/7264 10c7/1/1/7264 10cd/1/1/7264 13f8/6/1/-8 1c80/1/1/-6222 1c81/1/1/-6221",
  "1c82/1/1/-6212 1c83/2/1/-6210 1c85/1/1/-6211 1c86/1/1/-6204 1c87/1/1/-6180 1c88/1/1/35267",
  "1c89/1/1/1 1c90/43/1/-3008 1cbd/3/1/-3008 1e00/75/2/1 1e9b/1/1/-58 1e9e/1/1/-7615 1ea0/48/2/1",
  "1f08/8/1/-8 1f18/6/1/-8 1f28/8/1/-8 1f38/8/1/-8 1f48/6/1/-8 1f59/4/2/-8 1f68/8/1/-8",
  "1f88/8/1/-8 1f98/8/1/-8 1fa8/8/1/-8 1fb8/2/1/-8 1fba/2/1/-74 1fbc/1/1/-9 1fbe/1/1/-7173",
  "1fc8/4/1/-86 1fcc/1/1/-9 1fd3/1/1/-7235 1fd8/2/1/-8 1fda/2/1/-100 1fe3/1/1/-7219 1fe8/2/1/-8",
  "1fea/2/1/-112 1fec/1/1/-7 1ff8/2/1/-128 1ffa/2/1/-126 1ffc/1/1/-9 2126/1/1/-7517",
  "212a/1/1/-8383 212b/1/1/-8262 2132/1/1/28 2160/16/1/16 2183/1/1/1 24b6/26/1/26 2c00/48/1/48",
  "2c60/1/1/1 2c62/1/1/-10743 2c63/1/1/-3814 2c64/1/1/-10727 2c67/3/2/1 2c6d/1/1/-10780",
  "2c6e/1/1/-10749 2c6f/1/1/-10783 2c70/1/1/-10782 2c72/1/1/1 2c75/1/1/1 2c7e/2/1/-10815",
  "2c80/50/2/1 2ceb/2/2/1 2cf2/1/1/1 a640/23/2/1 a680/14/2/1 a722/7/2/1 a732/31/2/1 a779/2/2/1",
  "a77d/1/1/-35332 a77e/5/2/1 a78b/1/1/1 a78d/1/1/-42280 a790/2/2/1 a796/10/2/1 a7aa/1/1/-42308",
  "a7ab/1/1/-42319 a7ac/1/1/-42315 a7ad/1/1/-42305 a7ae/1/1/-42308 a7b0/1/1/-42258",
  "a7b1/1/1/-42282 a7b2/1/1/-42261 a7b3/1/1/928 a7b4/8/2/1 a7c4/1/1/-48 a7c5/1/1/-42307",
  "a7c6/1/1/-35384 a7c7/2/2/1 a7cb/1/1/-42343 a7cc/1/1/1 a7d0/1/1/1 a7d6/3/2/1 a7dc/1/1/-42561",
  "a7f5/1/1/1 ab70/80/1/-38864 fb05/1/1/1 ff21/26/1/32 10400/40/1/40 104b0/36/1/40 10570/11/1/39",
  "1057c/15/1/39 1058c/7/1/39 10594/2/1/39 10c80/51/1/64 10d50/22/1/32 118a0/32/1/32",
  "16e40/32/1/32 1e900/34/1/34"]

end JsonValidators.Unicode
