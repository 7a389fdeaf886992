import StubDoctest.Text.Table

/-!
# Data of letter case and digits

The case mappings and the character properties of the Unicode standard (version 14) that the
text methods need. A case mapping is written as blank-separated entries of hexadecimal
numbers, each starting with the distance of its first code point from the point after the
previous entry: `d:x.y` maps one code point to `x y`; `d*n:x` maps `n` consecutive code points
to `n` consecutive ones from `x`; `d/n:x` maps every second code point, `n` of them, to every
second one from `x`. A property is a range table.
-/

namespace StubDoctest.Text

/-- The full upper-case mappings. -/
def upperText : String :=
  "61*1a:41 3a:39c 29:53.53 0*17:c0 1*7:d8 0:178 1/18:100 1:49 1/3:132 2/8:139 0:2bc.4e " ++
  "1/17:14a 2/3:179 0:53 0:243 2:182 1:184 2:187 3:18b 5:191 2:1f6 3:198 0:23d 3:220 " ++
  "2/3:1a0 2:1a7 4:1ac 2:1af 3:1b3 1:1b5 2:1b8 3:1bc 1:1f7 5:1c4 0:1c4 1:1c7 0:1c7 1:1ca " ++
  "0:1ca 1/8:1cd 0:18e 1/9:1de 0:4a.30c 1:1f1 0:1f1 1:1f4 3/14:1f8 3/9:222 8:23b 2:2c7e " ++
  "0:2c7f 1:241 4/5:246 0:2c6f 0:2c6d 0:2c70 0:181 0:186 1:189 0:18a 1:18f 1:190 0:a7ab " ++
  "3:193 0:a7ac 1:194 1:a78d 0:a7aa 1:197 0:196 0:a7ae 0:2c62 0:a7ad 2:19c 1:2c6e 0:19d " ++
  "2:19f 7:2c64 2:1a6 1:a7c5 0:1a9 3:a7b1 0:1ae 0:244 0:1b1 0:1b2 0:245 5:1b7 a:a7b2 0:a7b0 " ++
  "a6:399 2b:370 1:372 3:376 3*3:3fd 12:399.308.301 1b:386 0*3:388 0:3a5.308.301 0*11:391 " ++
  "0:3a3 0*9:3a3 0:38c 0:38e 0:38f 1:392 0:398 3:3a6 0:3a0 0:3cf 1/c:3d8 0:39a 0:3a1 0:3f9 " ++
  "0:37f 1:395 2:3f7 2:3fa 34*20:410 0*10:400 1/11:460 9/1b:48a 2/7:4c1 0:4c0 1/30:4d0 " ++
  "31*26:531 0:535.552 b48*2b:1c90 2*3:1cbd 2f8*6:13f0 882:412 0:414 0:41e 0:421 0:422 " ++
  "0:422 0:42a 0:462 0:a64a f0:a77d 3:2c63 10:a7c6 72/4b:1e00 0:48.331 0:54.308 0:57.30a " ++
  "0:59.30a 0:41.2be 0:1e60 5/30:1ea0 0*8:1f08 8*6:1f18 a*8:1f28 8*8:1f38 8*6:1f48 " ++
  "a:3a5.313 0:1f59 0:3a5.313.300 0:1f5b 0:3a5.313.301 0:1f5d 0:3a5.313.342 0:1f5f 8*8:1f68 " ++
  "8:1fba 0:1fbb 0*4:1fc8 0:1fda 0:1fdb 0:1ff8 0:1ff9 0:1fea 0:1feb 0:1ffa 0:1ffb " ++
  "2:1f08.399 0:1f09.399 0:1f0a.399 0:1f0b.399 0:1f0c.399 0:1f0d.399 0:1f0e.399 0:1f0f.399 " ++
  "0:1f08.399 0:1f09.399 0:1f0a.399 0:1f0b.399 0:1f0c.399 0:1f0d.399 0:1f0e.399 0:1f0f.399 " ++
  "0:1f28.399 0:1f29.399 0:1f2a.399 0:1f2b.399 0:1f2c.399 0:1f2d.399 0:1f2e.399 0:1f2f.399 " ++
  "0:1f28.399 0:1f29.399 0:1f2a.399 0:1f2b.399 0:1f2c.399 0:1f2d.399 0:1f2e.399 0:1f2f.399 " ++
  "0:1f68.399 0:1f69.399 0:1f6a.399 0:1f6b.399 0:1f6c.399 0:1f6d.399 0:1f6e.399 0:1f6f.399 " ++
  "0:1f68.399 0:1f69.399 0:1f6a.399 0:1f6b.399 0:1f6c.399 0:1f6d.399 0:1f6e.399 0:1f6f.399 " ++
  "0:1fb8 0:1fb9 0:1fba.399 0:391.399 0:386.399 1:391.342 0:391.342.399 4:391.399 1:399 " ++
  "3:1fca.399 0:397.399 0:389.399 1:397.342 0:397.342.399 4:397.399 3:1fd8 0:1fd9 " ++
  "0:399.308.300 0:399.308.301 2:399.342 0:399.308.342 8:1fe8 0:1fe9 0:3a5.308.300 " ++
  "0:3a5.308.301 0:3a1.313 0:1fec 0:3a5.342 0:3a5.308.342 a:1ffa.399 0:3a9.399 0:38f.399 " ++
  "1:3a9.342 0:3a9.342.399 4:3a9.399 151:2132 21*10:2160 4:2183 34b*1a:24b6 746*30:2c00 " ++
  "1:2c60 3:23a 0:23e 1/3:2c67 6:2c72 2:2c75 a/32:2c80 8:2ceb 1:2ced 4:2cf2 c*26:10a0 " ++
  "1:10c7 5:10cd 7913/17:a640 13/e:a680 87/7:a722 3/1f:a732 a:a779 1:a77b 2/5:a77e 4:a78b " ++
  "4:a790 1:a792 0:a7c4 2/a:a796 b/8:a7b4 4:a7c7 1:a7c9 6:a7d0 5:a7d6 1:a7d8 1c:a7f5 " ++
  "35c:a7b3 1c*50:13a0 4f40:46.46 0:46.49 0:46.4c 0:46.46.49 0:46.46.4c 0:53.54 0:53.54 " ++
  "c:544.546 0:544.535 0:544.53b 0:54e.546 0:544.53d 429*1a:ff21 4cd*28:10400 88*24:104b0 " ++
  "9b*b:10570 1*f:1057c 1*7:1058c 1:10594 0:10595 703*33:10c80 bcd*20:118a0 5580*20:16e40 " ++
  "7aa2*22:1e900"

/-- The full lower-case mappings, with a capital sigma mapped to the medial form. -/
def lowerText : String :=
  "41*1a:61 65*17:e0 1*7:f8 21/18:101 1:69.307 1/3:133 2/8:13a 2/17:14b 1:ff 0/3:17a 3:253 " ++
  "0:183 1:185 1:254 0:188 1:256 0:257 0:18c 2:1dd 0:259 0:25b 0:192 1:260 0:263 1:269 " ++
  "0:268 0:199 3:26f 0:272 1:275 0/3:1a1 1:280 0:1a8 1:283 2:1ad 1:288 0:1b0 1:28a 0:28b " ++
  "0:1b4 1:1b6 1:292 0:1b9 3:1bd 7:1c6 0:1c6 1:1c9 0:1c9 1:1cc 0/9:1cc 2/9:1df 2:1f3 0:1f3 " ++
  "1:1f5 1:195 0:1bf 0/14:1f9 1:19e 1/9:223 7:2c65 0:23c 1:19a 0:2c66 2:242 1:180 0:289 " ++
  "0:28c 0/5:247 121:371 1:373 3:377 8:3f3 6:3ac 1*3:3ad 1:3cc 1:3cd 0:3ce 1*11:3b1 1*9:3c3 " ++
  "23:3d7 8/c:3d9 5:3b8 2:3f8 1:3f2 0:3fb 2*3:37b 0*10:450 0*20:430 30/11:461 9/1b:48b " ++
  "1:4cf 0/7:4c2 2/30:4d1 2*26:561 b49*26:2d00 1:2d27 5:2d2d 2d2*50:ab70 0*6:13f8 " ++
  "89a*2b:10d0 2*3:10fd 140/4b:1e01 9:df 1/30:1ea1 9*8:1f00 8*6:1f10 a*8:1f20 8*8:1f30 " ++
  "8*6:1f40 b/4:1f51 8*8:1f60 18*8:1f80 8*8:1f90 8*8:1fa0 8:1fb0 0:1fb1 0:1f70 0:1f71 " ++
  "0:1fb3 b*4:1f72 0:1fc3 b:1fd0 0:1fd1 0:1f76 0:1f77 c:1fe0 0:1fe1 0:1f7a 0:1f7b 0:1fe5 " ++
  "b:1f78 0:1f79 0:1f7c 0:1f7d 0:1ff3 129:3c9 3:6b 0:e5 6:214e 2d*10:2170 13:2184 " ++
  "332*1a:24d0 730*30:2c30 30:2c61 1:26b 0:1d7d 0:27d 2/3:2c68 1:251 0:271 0:250 0:252 " ++
  "1:2c73 2:2c76 8:23f 0:240 0/32:2c81 8:2cec 1:2cee 4:2cf3 794d/17:a641 13/e:a681 " ++
  "87/7:a723 3/1f:a733 a:a77a 1:a77c 1:1d79 0/5:a77f 4:a78c 1:265 2:a791 1:a793 3/a:a797 " ++
  "1:266 0:25c 0:261 0:26c 0:26a 1:29e 0:287 0:29d 0:ab53 0/8:a7b5 1:a794 0:282 0:1d8e " ++
  "0:a7c8 1:a7ca 6:a7d1 5:a7d7 1:a7d9 1c:a7f6 572b*1a:ff41 4c5*28:10428 88*24:104d8 " ++
  "9c*b:10597 1*f:105a3 1*7:105b3 1:105bb 0:105bc 6ea*33:10cc0 bed*20:118c0 5580*20:16e60 " ++
  "7aa0*22:1e922"

/-- The full title-case mappings. -/
def titleText : String :=
  "61*1a:41 3a:39c 29:53.73 0*17:c0 1*7:d8 0:178 1/18:100 1:49 1/3:132 2/8:139 0:2bc.4e " ++
  "1/17:14a 2/3:179 0:53 0:243 2:182 1:184 2:187 3:18b 5:191 2:1f6 3:198 0:23d 3:220 " ++
  "2/3:1a0 2:1a7 4:1ac 2:1af 3:1b3 1:1b5 2:1b8 3:1bc 1:1f7 4:1c5 1:1c5 0:1c8 1:1c8 0:1cb " ++
  "1/9:1cb 0:18e 1/9:1de 0:4a.30c 0:1f2 1:1f2 1:1f4 3/14:1f8 3/9:222 8:23b 2:2c7e 0:2c7f " ++
  "1:241 4/5:246 0:2c6f 0:2c6d 0:2c70 0:181 0:186 1:189 0:18a 1:18f 1:190 0:a7ab 3:193 " ++
  "0:a7ac 1:194 1:a78d 0:a7aa 1:197 0:196 0:a7ae 0:2c62 0:a7ad 2:19c 1:2c6e 0:19d 2:19f " ++
  "7:2c64 2:1a6 1:a7c5 0:1a9 3:a7b1 0:1ae 0:244 0:1b1 0:1b2 0:245 5:1b7 a:a7b2 0:a7b0 " ++
  "a6:399 2b:370 1:372 3:376 3*3:3fd 12:399.308.301 1b:386 0*3:388 0:3a5.308.301 0*11:391 " ++
  "0:3a3 0*9:3a3 0:38c 0:38e 0:38f 1:392 0:398 3:3a6 0:3a0 0:3cf 1/c:3d8 0:39a 0:3a1 0:3f9 " ++
  "0:37f 1:395 2:3f7 2:3fa 34*20:410 0*10:400 1/11:460 9/1b:48a 2/7:4c1 0:4c0 1/30:4d0 " ++
  "31*26:531 0:535.582 e70*6:13f0 882:412 0:414 0:41e 0:421 0:422 0:422 0:42a 0:462 0:a64a " ++
  "f0:a77d 3:2c63 10:a7c6 72/4b:1e00 0:48.331 0:54.308 0:57.30a 0:59.30a 0:41.2be 0:1e60 " ++
  "5/30:1ea0 0*8:1f08 8*6:1f18 a*8:1f28 8*8:1f38 8*6:1f48 a:3a5.313 0:1f59 0:3a5.313.300 " ++
  "0:1f5b 0:3a5.313.301 0:1f5d 0:3a5.313.342 0:1f5f 8*8:1f68 8:1fba 0:1fbb 0*4:1fc8 0:1fda " ++
  "0:1fdb 0:1ff8 0:1ff9 0:1fea 0:1feb 0:1ffa 0:1ffb 2*8:1f88 8*8:1f98 8*8:1fa8 8:1fb8 " ++
  "0:1fb9 0:1fba.345 0:1fbc 0:386.345 1:391.342 0:391.342.345 6:399 3:1fca.345 0:1fcc " ++
  "0:389.345 1:397.342 0:397.342.345 8:1fd8 0:1fd9 0:399.308.300 0:399.308.301 2:399.342 " ++
  "0:399.308.342 8:1fe8 0:1fe9 0:3a5.308.300 0:3a5.308.301 0:3a1.313 0:1fec 0:3a5.342 " ++
  "0:3a5.308.342 a:1ffa.345 0:1ffc 0:38f.345 1:3a9.342 0:3a9.342.345 156:2132 21*10:2160 " ++
  "4:2183 34b*1a:24b6 746*30:2c00 1:2c60 3:23a 0:23e 1/3:2c67 6:2c72 2:2c75 a/32:2c80 " ++
  "8:2ceb 1:2ced 4:2cf2 c*26:10a0 1:10c7 5:10cd 7913/17:a640 13/e:a680 87/7:a722 3/1f:a732 " ++
  "a:a779 1:a77b 2/5:a77e 4:a78b 4:a790 1:a792 0:a7c4 2/a:a796 b/8:a7b4 4:a7c7 1:a7c9 " ++
  "6:a7d0 5:a7d6 1:a7d8 1c:a7f5 35c:a7b3 1c*50:13a0 4f40:46.66 0:46.69 0:46.6c 0:46.66.69 " ++
  "0:46.66.6c 0:53.74 0:53.74 c:544.576 0:544.565 0:544.56b 0:54e.576 0:544.56d 429*1a:ff21 " ++
  "4cd*28:10400 88*24:104b0 9b*b:10570 1*f:1057c 1*7:1058c 1:10594 0:10595 703*33:10c80 " ++
  "bcd*20:118a0 5580*20:16e40 7aa2*22:1e900"

/-- The full case foldings. -/
def foldText : String :=
  "41*1a:61 5a:3bc a*17:e0 1*7:f8 0:73.73 20/18:101 1:69.307 1/3:133 2/8:13a 1:2bc.6e " ++
  "0/17:14b 1:ff 0/3:17a 1:73 1:253 0:183 1:185 1:254 0:188 1:256 0:257 0:18c 2:1dd 0:259 " ++
  "0:25b 0:192 1:260 0:263 1:269 0:268 0:199 3:26f 0:272 1:275 0/3:1a1 1:280 0:1a8 1:283 " ++
  "2:1ad 1:288 0:1b0 1:28a 0:28b 0:1b4 1:1b6 1:292 0:1b9 3:1bd 7:1c6 0:1c6 1:1c9 0:1c9 " ++
  "1:1cc 0/9:1cc 2/9:1df 1:6a.30c 0:1f3 0:1f3 1:1f5 1:195 0:1bf 0/14:1f9 1:19e 1/9:223 " ++
  "7:2c65 0:23c 1:19a 0:2c66 2:242 1:180 0:289 0:28c 0/5:247 f6:3b9 2a:371 1:373 3:377 " ++
  "8:3f3 6:3ac 1*3:3ad 1:3cc 1:3cd 0:3ce 0:3b9.308.301 0*11:3b1 1*9:3c3 4:3c5.308.301 " ++
  "11:3c3 c:3d7 0:3b2 0:3b8 3:3c6 0:3c0 1/c:3d9 1:3ba 0:3c1 2:3b8 0:3b5 1:3f8 1:3f2 0:3fb " ++
  "2*3:37b 0*10:450 0*20:430 30/11:461 9/1b:48b 1:4cf 0/7:4c2 2/30:4d1 2*26:561 30:565.582 " ++
  "b18*26:2d00 1:2d27 5:2d2d 32a*6:13f0 882:432 0:434 0:43e 0:441 0:442 0:442 0:44a 0:463 " ++
  "0:a64b 7*2b:10d0 2*3:10fd 140/4b:1e01 1:68.331 0:74.308 0:77.30a 0:79.30a 0:61.2be " ++
  "0:1e61 2:73.73 1/30:1ea1 9*8:1f00 8*6:1f10 a*8:1f20 8*8:1f30 8*6:1f40 2:3c5.313 " ++
  "1:3c5.313.300 1:3c5.313.301 1:3c5.313.342 2/4:1f51 8*8:1f60 10:1f00.3b9 0:1f01.3b9 " ++
  "0:1f02.3b9 0:1f03.3b9 0:1f04.3b9 0:1f05.3b9 0:1f06.3b9 0:1f07.3b9 0:1f00.3b9 0:1f01.3b9 " ++
  "0:1f02.3b9 0:1f03.3b9 0:1f04.3b9 0:1f05.3b9 0:1f06.3b9 0:1f07.3b9 0:1f20.3b9 0:1f21.3b9 " ++
  "0:1f22.3b9 0:1f23.3b9 0:1f24.3b9 0:1f25.3b9 0:1f26.3b9 0:1f27.3b9 0:1f20.3b9 0:1f21.3b9 " ++
  "0:1f22.3b9 0:1f23.3b9 0:1f24.3b9 0:1f25.3b9 0:1f26.3b9 0:1f27.3b9 0:1f60.3b9 0:1f61.3b9 " ++
  "0:1f62.3b9 0:1f63.3b9 0:1f64.3b9 0:1f65.3b9 0:1f66.3b9 0:1f67.3b9 0:1f60.3b9 0:1f61.3b9 " ++
  "0:1f62.3b9 0:1f63.3b9 0:1f64.3b9 0:1f65.3b9 0:1f66.3b9 0:1f67.3b9 2:1f70.3b9 0:3b1.3b9 " ++
  "0:3ac.3b9 1:3b1.342 0:3b1.342.3b9 0:1fb0 0:1fb1 0:1f70 0:1f71 0:3b1.3b9 1:3b9 3:1f74.3b9 " ++
  "0:3b7.3b9 0:3ae.3b9 1:3b7.342 0:3b7.342.3b9 0*4:1f72 0:3b7.3b9 5:3b9.308.300 " ++
  "0:3b9.308.301 2:3b9.342 0:3b9.308.342 0:1fd0 0:1fd1 0:1f76 0:1f77 6:3c5.308.300 " ++
  "0:3c5.308.301 0:3c1.313 1:3c5.342 0:3c5.308.342 0:1fe0 0:1fe1 0:1f7a 0:1f7b 0:1fe5 " ++
  "5:1f7c.3b9 0:3c9.3b9 0:3ce.3b9 1:3c9.342 0:3c9.342.3b9 0:1f78 0:1f79 0:1f7c 0:1f7d " ++
  "0:3c9.3b9 129:3c9 3:6b 0:e5 6:214e 2d*10:2170 13:2184 332*1a:24d0 730*30:2c30 30:2c61 " ++
  "1:26b 0:1d7d 0:27d 2/3:2c68 1:251 0:271 0:250 0:252 1:2c73 2:2c76 8:23f 0:240 0/32:2c81 " ++
  "8:2cec 1:2cee 4:2cf3 794d/17:a641 13/e:a681 87/7:a723 3/1f:a733 a:a77a 1:a77c 1:1d79 " ++
  "0/5:a77f 4:a78c 1:265 2:a791 1:a793 3/a:a797 1:266 0:25c 0:261 0:26c 0:26a 1:29e 0:287 " ++
  "0:29d 0:ab53 0/8:a7b5 1:a794 0:282 0:1d8e 0:a7c8 1:a7ca 6:a7d1 5:a7d7 1:a7d9 1c:a7f6 " ++
  "37a*50:13a0 4f40:66.66 0:66.69 0:66.6c 0:66.66.69 0:66.66.6c 0:73.74 0:73.74 c:574.576 " ++
  "0:574.565 0:574.56b 0:57e.576 0:574.56d 409*1a:ff41 4c5*28:10428 88*24:104d8 9c*b:10597 " ++
  "1*f:105a3 1*7:105b3 1:105bb 0:105bc 6ea*33:10cc0 bed*20:118c0 5580*20:16e60 " ++
  "7aa0*22:1e922"

/-- The code points of the property Lowercase. -/
def lowercaseTable : RangeTable := RangeTable.decode (
  "61 19 2f 0 a 0 4 0 24 17 1 7 1 0 1 0 1 0 1 0 1 0 1 0 1 0 1 0 1 0 1 0 1 0 1 0 1 0 1 0 1 0 " ++
  "1 0 1 0 1 0 1 0 1 0 1 0 1 0 1 0 1 0 1 0 1 0 1 0 1 1 1 0 1 0 1 0 1 0 1 0 1 0 1 0 1 1 1 0 " ++
  "1 0 1 0 1 0 1 0 1 0 1 0 1 0 1 0 1 0 1 0 1 0 1 0 1 0 1 0 1 0 1 0 1 0 1 0 1 0 1 0 1 0 1 0 " ++
  "2 0 1 0 1 2 2 0 1 0 2 0 3 1 4 0 2 0 3 2 2 0 2 0 1 0 1 0 2 0 1 1 1 0 2 0 3 0 1 0 2 1 2 2 " ++
  "6 0 2 0 2 0 1 0 1 0 1 0 1 0 1 0 1 0 1 0 1 1 1 0 1 0 1 0 1 0 1 0 1 0 1 0 1 0 1 1 2 0 1 0 " ++
  "3 0 1 0 1 0 1 0 1 0 1 0 1 0 1 0 1 0 1 0 1 0 1 0 1 0 1 0 1 0 1 0 1 0 1 0 1 0 1 0 1 0 1 0 " ++
  "1 0 1 0 1 0 1 0 1 0 1 0 1 0 1 6 2 0 2 1 1 0 4 0 1 0 1 0 1 0 1 44 1 23 7 1 1e 4 60 0 2b 0 " ++
  "1 0 3 0 2 3 12 0 1b 22 1 1 3 2 1 0 1 0 1 0 1 0 1 0 1 0 1 0 1 0 1 0 1 0 1 0 1 4 1 0 2 0 2 " ++
  "1 33 2f 1 0 1 0 1 0 1 0 1 0 1 0 1 0 1 0 1 0 1 0 1 0 1 0 1 0 1 0 1 0 1 0 1 0 9 0 1 0 1 0 " ++
  "1 0 1 0 1 0 1 0 1 0 1 0 1 0 1 0 1 0 1 0 1 0 1 0 1 0 1 0 1 0 1 0 1 0 1 0 1 0 1 0 1 0 1 0 " ++
  "1 0 1 0 2 0 1 0 1 0 1 0 1 0 1 0 1 1 1 0 1 0 1 0 1 0 1 0 1 0 1 0 1 0 1 0 1 0 1 0 1 0 1 0 " ++
  "1 0 1 0 1 0 1 0 1 0 1 0 1 0 1 0 1 0 1 0 1 0 1 0 1 0 1 0 1 0 1 0 1 0 1 0 1 0 1 0 1 0 1 0 " ++
  "1 0 1 0 1 0 1 0 1 0 1 0 1 0 1 0 1 0 1 0 1 0 1 0 1 0 30 28 b47 2a 2 2 2f8 5 882 8 77 bf " ++
  "41 0 1 0 1 0 1 0 1 0 1 0 1 0 1 0 1 0 1 0 1 0 1 0 1 0 1 0 1 0 1 0 1 0 1 0 1 0 1 0 1 0 1 0 " ++
  "1 0 1 0 1 0 1 0 1 0 1 0 1 0 1 0 1 0 1 0 1 0 1 0 1 0 1 0 1 0 1 0 1 0 1 0 1 0 1 0 1 0 1 0 " ++
  "1 0 1 0 1 0 1 0 1 0 1 0 1 0 1 0 1 0 1 0 1 0 1 0 1 0 1 0 1 0 1 0 1 0 1 0 1 0 1 0 1 0 1 0 " ++
  "1 0 1 0 1 0 1 0 1 0 1 0 1 0 1 0 1 8 1 0 1 0 1 0 1 0 1 0 1 0 1 0 1 0 1 0 1 0 1 0 1 0 1 0 " ++
  "1 0 1 0 1 0 1 0 1 0 1 0 1 0 1 0 1 0 1 0 1 0 1 0 1 0 1 0 1 0 1 0 1 0 1 0 1 0 1 0 1 0 1 0 " ++
  "1 0 1 0 1 0 1 0 1 0 1 0 1 0 1 0 1 0 1 0 1 0 1 0 1 0 1 8 8 5 a 7 8 7 8 5 a 7 8 7 8 d 2 7 " ++
  "8 7 8 7 8 4 1 1 6 0 3 2 1 1 8 3 2 1 8 7 a 2 1 1 79 0 d 0 10 c 6d 0 3 1 3 0 1b 0 4 0 4 0 " ++
  "2 1 8 3 4 0 21 f 4 0 34b 19 746 2f 1 0 3 1 1 0 1 0 1 0 4 0 1 1 1 7 3 0 1 0 1 0 1 0 1 0 1 " ++
  "0 1 0 1 0 1 0 1 0 1 0 1 0 1 0 1 0 1 0 1 0 1 0 1 0 1 0 1 0 1 0 1 0 1 0 1 0 1 0 1 0 1 0 1 " ++
  "0 1 0 1 0 1 0 1 0 1 0 1 0 1 0 1 0 1 0 1 0 1 0 1 0 1 0 1 0 1 0 1 0 1 0 1 0 1 0 1 0 1 0 1 " ++
  "1 7 0 1 0 4 0 c 25 1 0 5 0 7913 0 1 0 1 0 1 0 1 0 1 0 1 0 1 0 1 0 1 0 1 0 1 0 1 0 1 0 1 " ++
  "0 1 0 1 0 1 0 1 0 1 0 1 0 1 0 1 0 13 0 1 0 1 0 1 0 1 0 1 0 1 0 1 0 1 0 1 0 1 0 1 0 1 0 1 " ++
  "2 85 0 1 0 1 0 1 0 1 0 1 0 1 2 1 0 1 0 1 0 1 0 1 0 1 0 1 0 1 0 1 0 1 0 1 0 1 0 1 0 1 0 1 " ++
  "0 1 0 1 0 1 0 1 0 1 0 1 0 1 0 1 0 1 0 1 0 1 0 1 0 1 0 1 0 1 0 1 9 1 0 1 0 2 0 1 0 1 0 1 " ++
  "0 1 0 4 0 1 0 2 0 1 2 1 0 1 0 1 0 1 0 1 0 1 0 1 0 1 0 1 0 1 0 5 0 5 0 1 0 1 0 1 0 1 0 1 " ++
  "0 1 0 1 0 4 0 1 0 6 0 1 0 1 0 1 0 1 0 1c 0 1 2 335 2a 1 c 7 4f 4f40 6 c 4 429 19 4cd 27 " ++
  "88 23 9b a 1 e 1 6 1 1 1c3 0 2 2 1 29 1 8 505 32 bcd 1f 5580 1f 659a 19 1a 6 1 11 1a 19 " ++
  "1a 3 1 0 1 6 1 a 1a 19 1a 19 1a 19 1a 19 1a 19 1a 19 1a 19 1a 19 1a 1b 1c 18 1 5 1a 18 1 " ++
  "5 1a 18 1 5 1a 18 1 5 1a 18 1 5 1 0 734 9 1 13 a03 21")

/-- The code points of the property Uppercase. -/
def uppercaseTable : RangeTable := RangeTable.decode (
  "41 19 65 16 1 6 21 0 1 0 1 0 1 0 1 0 1 0 1 0 1 0 1 0 1 0 1 0 1 0 1 0 1 0 1 0 1 0 1 0 1 0 " ++
  "1 0 1 0 1 0 1 0 1 0 1 0 1 0 1 0 1 0 1 0 2 0 1 0 1 0 1 0 1 0 1 0 1 0 1 0 2 0 1 0 1 0 1 0 " ++
  "1 0 1 0 1 0 1 0 1 0 1 0 1 0 1 0 1 0 1 0 1 0 1 0 1 0 1 0 1 0 1 0 1 0 1 0 1 0 1 1 1 0 1 0 " ++
  "3 1 1 0 1 1 1 2 2 3 1 1 1 2 3 1 1 1 1 0 1 0 1 1 1 0 2 0 1 1 1 2 1 0 1 1 3 0 7 0 2 0 2 0 " ++
  "2 0 1 0 1 0 1 0 1 0 1 0 1 0 1 0 2 0 1 0 1 0 1 0 1 0 1 0 1 0 1 0 1 0 2 0 2 0 1 2 1 0 1 0 " ++
  "1 0 1 0 1 0 1 0 1 0 1 0 1 0 1 0 1 0 1 0 1 0 1 0 1 0 1 0 1 0 1 0 1 0 1 0 1 0 1 0 1 0 1 0 " ++
  "1 0 1 0 1 0 1 0 1 0 7 1 1 1 2 0 1 3 1 0 1 0 1 0 1 0 121 0 1 0 3 0 8 0 6 0 1 2 1 0 1 1 1 " ++
  "10 1 8 23 0 2 2 3 0 1 0 1 0 1 0 1 0 1 0 1 0 1 0 1 0 1 0 1 0 1 0 5 0 2 0 1 1 2 32 30 0 1 " ++
  "0 1 0 1 0 1 0 1 0 1 0 1 0 1 0 1 0 1 0 1 0 1 0 1 0 1 0 1 0 1 0 9 0 1 0 1 0 1 0 1 0 1 0 1 " ++
  "0 1 0 1 0 1 0 1 0 1 0 1 0 1 0 1 0 1 0 1 0 1 0 1 0 1 0 1 0 1 0 1 0 1 0 1 0 1 0 1 0 1 1 1 " ++
  "0 1 0 1 0 1 0 1 0 1 0 2 0 1 0 1 0 1 0 1 0 1 0 1 0 1 0 1 0 1 0 1 0 1 0 1 0 1 0 1 0 1 0 1 " ++
  "0 1 0 1 0 1 0 1 0 1 0 1 0 1 0 1 0 1 0 1 0 1 0 1 0 1 0 1 0 1 0 1 0 1 0 1 0 1 0 1 0 1 0 1 " ++
  "0 1 0 1 0 1 0 1 0 1 0 1 0 1 0 1 0 1 0 2 25 b49 25 1 0 5 0 2d2 55 89a 2a 2 2 140 0 1 0 1 " ++
  "0 1 0 1 0 1 0 1 0 1 0 1 0 1 0 1 0 1 0 1 0 1 0 1 0 1 0 1 0 1 0 1 0 1 0 1 0 1 0 1 0 1 0 1 " ++
  "0 1 0 1 0 1 0 1 0 1 0 1 0 1 0 1 0 1 0 1 0 1 0 1 0 1 0 1 0 1 0 1 0 1 0 1 0 1 0 1 0 1 0 1 " ++
  "0 1 0 1 0 1 0 1 0 1 0 1 0 1 0 1 0 1 0 1 0 1 0 1 0 1 0 1 0 1 0 1 0 1 0 1 0 1 0 1 0 1 0 1 " ++
  "0 1 0 1 0 1 0 1 0 1 0 1 0 9 0 1 0 1 0 1 0 1 0 1 0 1 0 1 0 1 0 1 0 1 0 1 0 1 0 1 0 1 0 1 " ++
  "0 1 0 1 0 1 0 1 0 1 0 1 0 1 0 1 0 1 0 1 0 1 0 1 0 1 0 1 0 1 0 1 0 1 0 1 0 1 0 1 0 1 0 1 " ++
  "0 1 0 1 0 1 0 1 0 1 0 1 0 1 0 1 0 1 0 1 0 1 0 9 7 8 5 a 7 8 7 8 5 b 0 1 0 1 0 1 0 8 7 48 " ++
  "3 c 3 c 3 c 4 b 3 106 0 4 0 3 2 2 2 2 0 3 4 6 0 1 0 1 0 1 3 2 3 a 1 5 0 1a f 13 0 332 19 " ++
  "730 2f 30 0 1 2 2 0 1 0 1 0 1 3 1 0 2 0 8 2 1 0 1 0 1 0 1 0 1 0 1 0 1 0 1 0 1 0 1 0 1 0 " ++
  "1 0 1 0 1 0 1 0 1 0 1 0 1 0 1 0 1 0 1 0 1 0 1 0 1 0 1 0 1 0 1 0 1 0 1 0 1 0 1 0 1 0 1 0 " ++
  "1 0 1 0 1 0 1 0 1 0 1 0 1 0 1 0 1 0 1 0 1 0 1 0 1 0 1 0 1 0 1 0 8 0 1 0 4 0 794d 0 1 0 1 " ++
  "0 1 0 1 0 1 0 1 0 1 0 1 0 1 0 1 0 1 0 1 0 1 0 1 0 1 0 1 0 1 0 1 0 1 0 1 0 1 0 1 0 13 0 1 " ++
  "0 1 0 1 0 1 0 1 0 1 0 1 0 1 0 1 0 1 0 1 0 1 0 1 0 87 0 1 0 1 0 1 0 1 0 1 0 1 0 3 0 1 0 1 " ++
  "0 1 0 1 0 1 0 1 0 1 0 1 0 1 0 1 0 1 0 1 0 1 0 1 0 1 0 1 0 1 0 1 0 1 0 1 0 1 0 1 0 1 0 1 " ++
  "0 1 0 1 0 1 0 1 0 1 0 1 0 a 0 1 0 1 1 1 0 1 0 1 0 1 0 4 0 1 0 2 0 1 0 3 0 1 0 1 0 1 0 1 " ++
  "0 1 0 1 0 1 0 1 0 1 0 1 4 1 4 1 0 1 0 1 0 1 0 1 0 1 0 1 0 1 3 1 0 6 0 5 0 1 0 1c 0 572b " ++
  "19 4c5 27 88 23 9c a 1 e 1 6 1 1 6ea 32 bed 1f 5580 1f 65a0 19 1a 19 1a 19 1a 0 1 1 2 0 " ++
  "2 1 2 3 1 7 1a 19 1a 1 1 3 2 7 1 6 1b 1 1 3 1 4 1 0 3 6 1b 19 1a 19 1a 19 1a 19 1a 19 1a " ++
  "19 1e 18 21 18 21 18 21 18 21 18 21 0 1135 21 80e 19 6 19 6 19")

/-- The title-case letters (general category Lt). -/
def titlecaseTable : RangeTable := RangeTable.decode (
  "1c5 0 2 0 2 0 26 0 1d95 7 8 7 8 7 c 0 f 0 2f 0")

/-- The cased code points: lower case, upper case or title case. -/
def casedTable : RangeTable := RangeTable.decode (
  "41 19 6 19 2f 0 a 0 4 0 5 16 1 1e 1 c2 1 3 4 cf 1 23 7 1 1e 4 60 0 2a 3 2 1 2 3 1 0 6 0 " ++
  "1 2 1 0 1 13 1 52 1 8a 8 a5 1 25 9 28 b17 25 1 0 5 0 2 2a 2 2 2a0 55 2 5 882 8 7 2a 2 2 " ++
  "40 bf 40 115 2 5 2 25 2 5 2 7 1 0 1 0 1 0 1 1e 2 34 1 6 1 0 3 2 1 6 3 3 2 5 4 c 5 2 1 6 " ++
  "74 0 d 0 10 c 65 0 4 0 2 9 1 0 3 4 6 0 1 0 1 0 1 3 1 5 4 0 2 3 5 4 4 0 11 1f 3 1 331 33 " ++
  "716 e4 6 3 3 1 c 25 1 0 5 0 7912 2d 12 1d 84 65 3 3 1 3a 5 1 1 0 1 4 1b 1 1 2 335 2a 1 c " ++
  "7 4f 4f40 6 c 4 409 19 6 19 4a5 4f 60 23 4 23 74 a 1 e 1 6 1 1 1 a 1 e 1 6 1 1 1c3 0 2 2 " ++
  "1 29 1 8 4c5 32 d 32 bad 3f 5560 3f 6580 54 1 46 1 1 2 0 2 1 2 3 1 b 1 0 1 6 1 40 1 3 2 " ++
  "7 1 6 1 1b 1 3 1 4 1 0 3 6 1 153 2 18 1 18 1 1e 1 18 1 1e 1 18 1 1e 1 18 1 1e 1 18 1 7 " ++
  "734 9 1 13 9e1 43 7ec 19 6 19 6 19")

/-- The case-ignorable code points, which the context of a final sigma skips. -/
def caseIgnorableTable : RangeTable := RangeTable.decode (
  "27 0 6 0 b 0 23 0 1 0 47 0 4 0 1 0 4 0 2 1 1f7 bf 4 1 4 0 9 1 1 0 fb 6 cf 0 5 0 31 2c 1 " ++
  "0 1 1 1 1 1 0 2c 0 b 5 a a 1 0 23 0 a 14 10 0 65 7 1 9 1 3 21 0 1 0 1e 1a 5b a 3a a 4 0 " ++
  "2 0 18 17 2b 2 2c 0 7 1 6 7 29 39 37 0 1 0 4 7 4 0 3 6 a 1 d 0 f 0 3a 0 4 3 8 0 14 1 1a " ++
  "0 2 1 39 0 4 1 4 1 2 2 3 0 1e 1 3 0 b 1 39 0 4 4 1 1 4 0 14 1 16 5 1 0 3a 0 2 0 1 3 8 0 " ++
  "7 1 b 1 1e 0 3d 0 c 0 32 0 3 0 37 0 1 2 5 2 1 3 7 1 b 1 1d 0 3a 0 2 0 6 0 5 1 14 1 1c 1 " ++
  "39 1 4 3 8 0 14 1 1d 0 48 0 7 2 1 0 5a 0 2 6 b 8 62 0 2 8 9 0 1 5 4a 1 1b 0 1 0 1 0 37 d " ++
  "1 4 1 1 5 a 1 23 9 0 66 3 1 5 1 1 2 1 19 1 4 2 10 3 d 0 2 1 6 0 f 0 5e 0 260 2 3b2 2 1d " ++
  "1 1e 1 1e 1 40 1 1 6 8 0 2 a 3 0 5 0 2d 4 33 0 41 1 22 0 76 2 4 1 9 0 6 2 db 1 2 0 3a 0 " ++
  "1 6 1 0 1 0 2 7 6 9 2 0 27 0 8 1e 31 3 30 0 1 4 1 0 5 0 28 8 c 1 20 3 2 1 1 2 38 0 1 1 3 " ++
  "0 1 2 3a 7 2 1 40 5 52 2 1 c 1 6 4 0 6 0 3 1 32 3e d 0 22 64 1bd 0 1 2 b 2 d 2 d 2 d 1 c " ++
  "4 8 1 a 0 2 0 2 4 31 4 1 9 1 0 d 0 10 c 33 20 b8b 1 71 2 7d 0 f 0 60 1f 2f 0 1d5 0 24 3 " ++
  "3 4 5 0 5d 5 5d 2 6f16 0 4e2 5 10e 0 62 3 1 9 1 0 1c 3 50 1 e 21 4e 0 17 2 67 2 3 1 8 0 " ++
  "3 0 4 0 19 1 5 0 97 1 1a 11 d 0 26 7 19 a 2e 2 30 0 2 3 2 1 11 0 15 1 42 5 2 1 2 1 c 0 8 " ++
  "0 23 0 b 0 33 0 1 2 2 1 5 1 1 0 1b 0 e 1 5 1 1 0 64 4 9 2 79 0 2 0 4 0 4f30 0 93 10 23d " ++
  "f 3 0 c f 22 0 2 0 a9 0 7 0 6 0 b 0 23 0 1 0 2f 0 2d 1 43 0 15 2 201 0 e2 0 95 4 405 5 1 " ++
  "29 1 8 246 2 1 1 5 3 28 2 4 0 a5 1 23d 3 183 1 99 a 31 3 7b 0 36 e 29 0 2 1 a 2 31 3 2 1 " ++
  "2 0 4 0 a 0 32 2 24 4 1 7 3e 0 c 1 34 8 a 3 2 0 5f 2 2 0 1 1 6 0 a0 0 3 7 15 1 39 1 3 0 " ++
  "25 6 3 4 c3 7 2 2 1 0 17 0 54 5 1 0 4 1 1 1 ee 3 6 1 1 1 1b 1 55 7 2 0 1 1 6a 0 1 0 2 5 " ++
  "1 0 65 2 2 3 1 4 103 8 1 1 100 1 1 0 4 0 90 3 2 1 4 0 20 9 28 5 2 3 8 0 9 5 2 2 2e c 1 1 " ++
  "196 6 1 5 1 0 52 15 2 6 1 1 1 1 7a 5 3 0 1 1 1 6 1 0 48 1 3 0 1 0 15b 1 153b 8 36b7 4 3b " ++
  "6 9 3 40b 0 3f 10 40 1 1 1 400b 3 1 6 1 1 c9e 1 1 3 125c 2d 2 16 220 2 9 f 2 6 1e 3 94 2 " ++
  "7bb 36 4 31 8 0 e 0 16 4 1 e 550 6 1 10 2 6 1 1 1 4 105 d 170 0 3d 3 5e0 6 6d 7 aaf 4 " ++
  "c0c01 0 1e 5f 80 ef")

/-- The decimal digits (general category Nd), in runs of ten from a zero. -/
def decimalTable : RangeTable := RangeTable.decode (
  "30 9 626 9 86 9 c6 9 19c 9 76 9 76 9 76 9 76 9 76 9 76 9 76 9 76 9 76 9 60 9 76 9 46 9 " ++
  "116 9 46 9 746 9 26 9 12c 9 80 9 a6 9 6 9 b6 9 56 9 86 9 6 9 89c6 9 2a6 9 26 9 c6 9 16 9 " ++
  "56 9 196 9 5316 9 586 9 886 9 32c 9 80 9 3c 9 90 9 116 9 156 9 76 9 176 9 66 9 66 9 1a6 " ++
  "9 66 9 2f6 9 f6 9 46 9 4cb6 9 56 9 86 9 6c74 31 940 9 1a6 9 656 9 1296 9")

/-- The digits: decimal digits and the other characters with a digit value. -/
def digitTable : RangeTable := RangeTable.decode (
  "30 9 78 1 5 0 5a6 9 86 9 c6 9 19c 9 76 9 76 9 76 9 76 9 76 9 76 9 76 9 76 9 76 9 60 9 76 " ++
  "9 46 9 116 9 46 9 2cf 8 46e 9 26 9 12c 9 80 a a5 9 6 9 b6 9 56 9 86 9 6 9 416 0 3 5 6 9 " ++
  "3d6 8 b 8 b 8 59 0 a 8 1 0 276 8 1 8 1 8 7e8d 9 2a6 9 26 9 c6 9 16 9 56 9 196 9 5316 9 " ++
  "586 9 596 3 2ec 9 126 8 1e9 8 b 9 80 9 3c 9 90 9 116 9 156 9 76 9 176 9 66 9 66 9 1a6 9 " ++
  "66 9 2f6 9 f6 9 46 9 4cb6 9 56 9 86 9 6c74 31 940 9 1a6 9 656 9 7a6 a ae5 9")

/-- The numeric characters: those with any numeric value. -/
def numericTable : RangeTable := RangeTable.decode (
  "30 9 78 1 5 0 2 2 5a1 9 86 9 c6 9 19c 9 76 9 4 5 6c 9 76 9 76 9 2 5 6e c 73 9 8 6 67 9 " ++
  "68 6 7 12 6d 9 60 9 76 9 46 13 10c 9 46 9 2cf 13 371 2 ef 9 6 9 16 9 12c 9 80 a a5 9 6 9 " ++
  "b6 9 56 9 86 9 6 9 416 0 3 5 6 9 c6 32 2 4 2d6 3b 4e 15 276 1d 569 0 309 0 19 8 e 2 157 " ++
  "3 8a 9 1e 7 1 e 20 9 27 e 145 0 7d 0 3a6 0 322 0 12b2 0 2 0 3 0 1 0 53 0 2e 0 7 0 1 0 28 " ++
  "1 1e 0 8 0 24 0 62 0 193 0 41 0 22 0 1 0 1 0 1d3 0 1 2 6 0 74 3 316 0 215 0 7 0 580 0 83 " ++
  "1 c 2 1 0 3ed 0 4d 0 485 0 733 0 48f 0 2e7 0 a07 0 3a5 0 881 0 4 0 7c 0 8f0 0 24 0 5 0 " ++
  "2b 0 7d 0 f29 9 bc 9 140 5 9a 9 26 9 c6 9 16 9 56 9 196 9 4d71 0 7 0 4 0 39 0 1e 0 1 0 " ++
  "29 0 512 9 1ed 2c c 38 11 1 155 1a 24 3 1d 0 8 0 86 4 ca 9 3ae 7 19 6 27 8 4b 4 16 5 a0 " ++
  "1 2 f 2 2d 40 8 34 1 1e 2 4b 4 68 7 18 7 29 6 14a 5 30 9 126 1e 9e 9 2a 3 70 6 86 1d 80 " ++
  "9 3c 9 90 9 7 13 fb 9 156 9 76 9 176 9 66 9 66 b 1a4 12 5d 9 2f6 1c e3 9 46 9 216 14 42b " ++
  "6e 45f1 9 56 9 86 9 1 6 31e 16 6449 13 6c 18 455 31 940 9 1a6 9 5cd 8 80 9 317 3a 1 2 1 " ++
  "3 4c 2c 1 e 3c2 c ae3 9 407 0 62 0 7d 0 3e 0 808 0 58 0 8 0 f 0 14d 0 12 0 1b 0 1876 0 " ++
  "607 0 1182 0 2751 0 9622 0")

/-- The letters (general categories Lu, Ll, Lt, Lm and Lo). -/
def alphaTable : RangeTable := RangeTable.decode (
  "41 19 6 19 2f 0 a 0 4 0 5 16 1 1e 1 1c9 4 b e 4 7 0 1 0 81 4 1 1 2 3 1 0 6 0 1 2 1 0 1 " ++
  "13 1 52 1 8a 8 a5 1 25 2 0 6 28 47 1a 4 3 2d 2a 23 1 1 62 1 0 f 1 7 1 a 2 2 0 10 0 1 1d " ++
  "1d 58 b 0 18 20 9 1 4 0 5 15 4 0 9 0 3 0 17 18 7 a 5 17 1 5 11 29 3a 35 3 0 12 0 7 9 f f " ++
  "4 7 2 1 2 15 1 6 1 0 3 3 3 0 10 0 d 1 1 2 e 1 a 0 8 5 4 1 2 15 1 6 1 1 1 1 1 1 1f 3 1 0 " ++
  "13 2 10 8 1 2 1 15 1 6 1 1 1 4 3 0 12 0 f 1 17 0 b 7 2 1 2 15 1 6 1 1 1 4 3 0 1e 1 1 2 f " ++
  "0 11 0 1 5 3 2 1 3 3 1 1 0 1 1 3 1 3 2 3 b 16 0 34 7 1 2 1 16 1 f 3 0 1a 2 2 0 2 1 1e 0 " ++
  "4 7 1 2 1 16 1 9 1 4 3 0 1f 1 1 1 f 1 11 8 1 2 1 28 2 0 10 0 5 2 8 2 18 5 5 11 3 17 1 8 " ++
  "1 0 2 6 3a 2f 1 1 c 6 3a 1 1 0 1 4 1 17 1 0 1 9 1 1 9 0 2 4 1 0 15 3 20 0 3f 7 1 23 1b 4 " ++
  "73 2a 14 0 10 5 4 3 3 0 3 1 7 2 4 c c 0 11 25 1 0 5 0 2 2a 1 14c 1 3 2 6 1 0 1 3 2 28 1 " ++
  "3 2 20 1 3 2 6 1 0 1 3 2 e 1 38 1 3 2 42 25 f 10 55 2 5 3 26b 2 10 1 19 5 4a 6 7 7 11 d " ++
  "12 e 11 e c 1 2 f 33 23 0 4 0 43 58 7 4 2 21 1 0 5 45 a 1e 31 1d 2 4 b 2b 4 19 36 16 9 " ++
  "34 52 0 5d 2e 11 7 36 1d d 1 a 2b 1a 23 29 2 a 23 2 8 7 2a 2 2 29 3 1 5 1 1 3 0 5 bf 40 " ++
  "115 2 5 2 25 2 5 2 7 1 0 1 0 1 0 1 1e 2 34 1 6 1 0 3 2 1 6 3 3 2 5 4 c 5 2 1 6 74 0 d 0 " ++
  "10 c 65 0 4 0 2 9 1 0 3 4 6 0 1 0 1 0 1 3 1 a 2 3 5 4 4 0 34 1 a7b e4 6 3 3 1 c 25 1 0 5 " ++
  "0 2 37 7 0 10 16 9 6 1 6 1 6 1 6 1 6 1 6 1 6 1 6 50 0 1d5 1 2a 4 5 1 4 55 6 2 1 59 1 3 5 " ++
  "2a 1 5d 11 1f 30 f 200 19bf 40 568c 43 2d 2 10c 3 f a 1 14 2e 10 1e 2 45 31 8 2 66 2 3f " ++
  "5 1 1 0 1 4 18 f 1 2 1 3 1 16 1d 33 e 31 3e 5 3 0 1 1 b 1b a 16 19 1c 7 2e 1c 0 10 4 1 9 " ++
  "a 4 1 28 17 2 1 7 14 16 3 0 3 31 1 0 3 1 2 4 2 0 1 0 18 2 2 a 7 2 c 5 2 5 2 5 9 6 1 6 1 " ++
  "2a 1 d 6 72 1d 2ba3 c 16 4 30 2104 16d 2 69 26 6 c 4 5 0 1 9 1 c 1 4 1 0 1 1 1 1 1 6b 21 " ++
  "16a 12 3f 2 35 28 b 74 4 1 86 24 19 6 19 b 58 3 5 2 5 2 5 2 2 23 b 1 19 1 12 1 1 1 e 2 d " ++
  "22 7a 185 1c 3 30 2f 1f d 13 1 7 6 25 a 1d 2 23 4 7 30 9d 12 23 4 23 4 27 8 33 c a 1 e 1 " ++
  "6 1 1 1 a 1 e 1 6 1 1 43 136 9 15 a 7 18 5 1 29 1 8 45 5 2 0 1 2b 1 1 3 0 2 16 a 16 9 1e " ++
  "41 12 1 1 a 15 a 19 46 37 6 1 40 0 f 3 1 2 1 1c 2a 1c 3 1c 23 7 1 1b 1b 35 a 15 a 12 d " ++
  "11 6e 48 37 32 d 32 d 23 15c 29 6 1 4e 1c a 0 8 15 2a 11 2e 14 1b 16 c 34 39 1 2 0 d 2c " ++
  "20 18 1a 23 1d 0 2 0 8 22 3 0 c 2f e 3 15 0 1 0 23 11 1 18 54 6 1 0 1 3 1 e 1 9 7 2e 26 " ++
  "7 2 1 2 15 1 6 1 1 1 4 3 0 12 0 c 4 9e 34 12 3 14 2 1e 2f 14 1 1 0 b8 2e 29 3 24 2f 14 0 " ++
  "3b 2a d 0 47 1a 25 6 b9 2b 74 3f 1f 7 2 0 2 7 1 1 1 17 f 0 1 0 5e 7 2 26 10 0 1 0 1c 0 a " ++
  "27 7 0 15 0 b 2d 13 0 12 48 107 8 1 24 11 0 31 1d 70 6 1 1 1 25 15 0 19 5 1 1 1 1f e 0 " ++
  "147 12 bd 0 4f 399 e6 c3 a4c 60 f 42e fd1 246 21b9 238 7 1e 11 4e 11 1d 12 2f 10 3 1f 14 " ++
  "5 12 2b0 3f 80 4a 5 0 42 c 40 1 1 0 1c 17f7 8 4d5 2a 8 22e7 3 1 6 1 1 1 122 2d 2 11 3 8 " ++
  "18b 904 6a 5 c 3 8 7 9 1766 54 1 46 1 1 2 0 2 1 2 3 1 b 1 0 1 6 1 40 1 3 2 7 1 6 1 1b 1 " ++
  "3 1 4 1 0 3 6 1 153 2 18 1 18 1 1e 1 18 1 1e 1 18 1 1e 1 18 1 1e 1 18 1 7 734 1e 1e1 2c " ++
  "a 6 10 0 141 1d 12 2b 4f4 6 1 3 1 1 1 e 1 c4 3b 43 7 0 4b4 3 1 1a 1 1 1 0 2 0 1 9 1 3 1 " ++
  "0 1 0 6 0 4 0 1 0 1 0 1 2 1 1 1 0 2 0 1 0 1 0 1 0 1 0 1 1 1 0 2 3 1 6 1 3 1 3 1 0 1 9 1 " ++
  "10 5 2 1 4 1 10 1144 a6df 20 1038 7 dd 2 1681 e 1d30 c1f 21d 5e2 134a")

end StubDoctest.Text
