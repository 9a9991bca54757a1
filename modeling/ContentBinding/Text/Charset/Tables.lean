/-! Character sets in which every byte is one character. A table lists the characters of the bytes in
order, in hexadecimal: `a+n` stands for `a` and the `n` characters after it, and `xn` for `n` bytes
without a character. -/

namespace ContentBinding.Text.Charset

def tables : List (String × String) :=
  [("cp037", "0+3 9c 9 86 7f 97 8d+1 b+8 9d 85 8 87 18+1 92 8f 1c+3 80+4 a 17 1b 88+4 5+2 90+1 16 93+3 4
      98+3 14+1 9e 1a 20 a0 e2 e4 e0+1 e3 e5 e7 f1 a2 2e 3c 28 2b 7c 26 e9+2 e8 ed+2 ec df 21 24
      2a 29 3b ac 2d 2f c2 c4 c0+1 c3 c5 c7 d1 a6 2c 25 5f 3e+1 f8 c9+2 c8 cd+2 cc 60 3a 23 40
      27 3d 22 d8 61+8 ab bb f0 fd+1 b1 b0 6a+8 aa ba e6 b8 c6 a4 b5 7e 73+7 a1 bf d0 dd+1 ae 5e
      a3 a5 b7 a9 a7 b6 bc+2 5b 5d af a8 b4 d7 7b 41+8 ad f4 f6 f2+1 f5 7d 4a+8 b9 fb+1 f9+1 ff
      5c f7 53+7 b2 d4 d6 d2+1 d5 30+9 b3 db+1 d9+1 9f"),
    ("cp1006", "0+a0 6f0+9 60c 61b ad 61f fe81 fe8d+1 fe8e+1 fe91 fb56 fb58 fe93 fe95 fe97 fb66 fb68 fe99
      fe9b fe9d fe9f fb7a fb7c fea1 fea3 fea5 fea7 fea9 fb84 feab fead fb8c feaf fb8a feb1 feb3
      feb5 feb7 feb9 febb febd febf fec1 fec5 fec9+8 fed3 fed5 fed7 fed9 fedb fb92 fb94 fedd
      fedf+2 fee3 fb9e fee5 fee7 fe85 feed fba6 fba8+2 fe80 fe89+2 fef1+2 fbb0 fbae fe7c+1"),
    ("cp1026", "0+3 9c 9 86 7f 97 8d+1 b+8 9d 85 8 87 18+1 92 8f 1c+3 80+4 a 17 1b 88+4 5+2 90+1 16 93+3 4
      98+3 14+1 9e 1a 20 a0 e2 e4 e0+1 e3 e5 7b f1 c7 2e 3c 28 2b 21 26 e9+2 e8 ed+2 ec df 11e
      130 2a 29 3b 5e 2d 2f c2 c4 c0+1 c3 c5 5b d1 15f 2c 25 5f 3e+1 f8 c9+2 c8 cd+2 cc 131 3a
      d6 15e 27 3d dc d8 61+8 ab bb 7d 60 a6 b1 b0 6a+8 aa ba e6 b8 c6 a4 b5 f6 73+7 a1 bf 5d 24
      40 ae a2+1 a5 b7 a9 a7 b6 bc+2 ac 7c af a8 b4 d7 e7 41+8 ad f4 7e f2+1 f5 11f 4a+8 b9 fb
      5c f9+1 ff fc f7 53+7 b2 d4 23 d2+1 d5 30+9 b3 db 22 d9+1 9f"),
    ("cp1125", "0+7f 410+2f 2591+2 2502 2524 2561+1 2556 2555 2563 2551 2557 255d 255c 255b 2510 2514 2534
      252c 251c 2500 253c 255e+1 255a 2554 2569 2566 2560 2550 256c 2567+1 2564+1 2559 2558
      2552+1 256b 256a 2518 250c 2588 2584 258c 2590 2580 440+f 401 451 490+1 404 454 406 456
      407 457 b7 221a 2116 a4 25a0 a0"),
    ("cp1140", "0+3 9c 9 86 7f 97 8d+1 b+8 9d 85 8 87 18+1 92 8f 1c+3 80+4 a 17 1b 88+4 5+2 90+1 16 93+3 4
      98+3 14+1 9e 1a 20 a0 e2 e4 e0+1 e3 e5 e7 f1 a2 2e 3c 28 2b 7c 26 e9+2 e8 ed+2 ec df 21 24
      2a 29 3b ac 2d 2f c2 c4 c0+1 c3 c5 c7 d1 a6 2c 25 5f 3e+1 f8 c9+2 c8 cd+2 cc 60 3a 23 40
      27 3d 22 d8 61+8 ab bb f0 fd+1 b1 b0 6a+8 aa ba e6 b8 c6 20ac b5 7e 73+7 a1 bf d0 dd+1 ae
      5e a3 a5 b7 a9 a7 b6 bc+2 5b 5d af a8 b4 d7 7b 41+8 ad f4 f6 f2+1 f5 7d 4a+8 b9 fb+1 f9+1
      ff 5c f7 53+7 b2 d4 d6 d2+1 d5 30+9 b3 db+1 d9+1 9f"),
    ("cp1250", "0+7f 20ac x1 201a x1 201e 2026 2020+1 x1 2030 160 2039 15a 164 17d 179 x1 2018+1 201c+1
      2022 2013+1 x1 2122 161 203a 15b 165 17e 17a a0 2c7 2d8 141 a4 104 a6+3 15e ab+3 17b b0+1
      2db 142 b4+4 105 15f bb 13d 2dd 13e 17c 154 c1+1 102 c4 139 106 c7 10c c9 118 cb 11a cd+1
      10e 110 143 147 d3+1 150 d6+1 158 16e da 170 dc+1 162 df 155 e1+1 103 e4 13a 107 e7 10d e9
      119 eb 11b ed+1 10f 111 144 148 f3+1 151 f6+1 159 16f fa 171 fc+1 163 2d9"),
    ("cp1251", "0+7f 402+1 201a 453 201e 2026 2020+1 20ac 2030 409 2039 40a 40c 40b 40f 452 2018+1 201c+1
      2022 2013+1 x1 2122 459 203a 45a 45c 45b 45f a0 40e 45e 408 a4 490 a6+1 401 a9 404 ab+3
      407 b0+1 406 456 491 b5+2 451 2116 454 bb 458 405 455 457 410+3f"),
    ("cp1252", "0+7f 20ac x1 201a 192 201e 2026 2020+1 2c6 2030 160 2039 152 x1 17d x2 2018+1 201c+1 2022
      2013+1 2dc 2122 161 203a 153 x1 17e 178 a0+5f"),
    ("cp1253", "0+7f 20ac x1 201a 192 201e 2026 2020+1 x1 2030 x1 2039 x5 2018+1 201c+1 2022 2013+1 x1
      2122 x1 203a x4 a0 385+1 a3+6 x1 ab+3 2015 b0+3 384 b5+2 388+2 bb 38c bd 38e+13 x1 3a3+2b
      x1"),
    ("cp1254", "0+7f 20ac x1 201a 192 201e 2026 2020+1 2c6 2030 160 2039 152 x4 2018+1 201c+1 2022 2013+1
      2dc 2122 161 203a 153 x2 178 a0+2f 11e d1+b 130 15e df+10 11f f1+b 131 15f ff"),
    ("cp1255", "0+7f 20ac x1 201a 192 201e 2026 2020+1 2c6 2030 x1 2039 x5 2018+1 201c+1 2022 2013+1 2dc
      2122 x1 203a x4 a0+3 20aa a5+4 d7 ab+e f7 bb+4 5b0+9 x1 5bb+8 5f0+4 x7 5d0+1a x2 200e+1 x1"),
    ("cp1256", "0+7f 20ac 67e 201a 192 201e 2026 2020+1 2c6 2030 679 2039 152 686 698 688 6af 2018+1
      201c+1 2022 2013+1 6a9 2122 691 203a 153 200c+1 6ba a0 60c a2+7 6be ab+e 61b bb+3 61f 6c1
      621+15 d7 637+3 640+3 e0 644 e2 645+3 e7+4 649+1 ee+1 64b+3 f4 64f+1 f7 651 f9 652 fb+1
      200e+1 6d2"),
    ("cp1257", "0+7f 20ac x1 201a x1 201e 2026 2020+1 x1 2030 x1 2039 x1 a8 2c7 b8 x1 2018+1 201c+1 2022
      2013+1 x1 2122 x1 203a x1 af 2db x1 a0 x1 a2+2 x1 a6+1 d8 a9 156 ab+3 c6 b0+7 f8 b9 157
      bb+3 e6 104 12e 100 106 c4+1 118 112 10c c9 179 116 122 136 12a 13b 160 143 145 d3 14c
      d5+2 172 141 15a 16a dc 17b 17d df 105 12f 101 107 e4+1 119 113 10d e9 17a 117 123 137 12b
      13c 161 144 146 f3 14d f5+2 173 142 15b 16b fc 17c 17e 2d9"),
    ("cp1258", "0+7f 20ac x1 201a 192 201e 2026 2020+1 2c6 2030 x1 2039 152 x4 2018+1 201c+1 2022 2013+1
      2dc 2122 x1 203a 153 x2 178 a0+22 102 c4+7 300 cd+2 110 d1 309 d3+1 1a0 d6+6 1af 303 df+3
      103 e4+7 301 ed+2 111 f1 323 f3+1 1a1 f6+6 1b0 20ab ff"),
    ("cp273", "0+3 9c 9 86 7f 97 8d+1 b+8 9d 85 8 87 18+1 92 8f 1c+3 80+4 a 17 1b 88+4 5+2 90+1 16 93+3 4
      98+3 14+1 9e 1a 20 a0 e2 7b e0+1 e3 e5 e7 f1 c4 2e 3c 28 2b 21 26 e9+2 e8 ed+2 ec 7e dc 24
      2a 29 3b 5e 2d 2f c2 5b c0+1 c3 c5 c7 d1 f6 2c 25 5f 3e+1 f8 c9+2 c8 cd+2 cc 60 3a 23 a7
      27 3d 22 d8 61+8 ab bb f0 fd+1 b1 b0 6a+8 aa ba e6 b8 c6 a4 b5 df 73+7 a1 bf d0 dd+1 ae
      a2+1 a5 b7 a9 40 b6 bc+2 ac 7c 203e a8 b4 d7 e4 41+8 ad f4 a6 f2+1 f5 fc 4a+8 b9 fb 7d
      f9+1 ff d6 f7 53+7 b2 d4 5c d2+1 d5 30+9 b3 db 5d d9+1 9f"),
    ("cp424", "0+3 9c 9 86 7f 97 8d+1 b+8 9d 85 8 87 18+1 92 8f 1c+3 80+4 a 17 1b 88+4 5+2 90+1 16 93+3 4
      98+3 14+1 9e 1a 20 5d0+8 a2 2e 3c 28 2b 7c 26 5d9+8 21 24 2a 29 3b ac 2d 2f 5e2+7 a6 2c 25
      5f 3e+1 x1 5ea x2 a0 x3 2017 60 3a 23 40 27 3d 22 x1 61+8 ab bb x3 b1 b0 6a+8 x3 b8 x1 a4
      b5 7e 73+7 x5 ae 5e a3 a5 b7 a9 a7 b6 bc+2 5b 5d af a8 b4 d7 7b 41+8 ad x5 7d 4a+8 b9 x5
      5c f7 53+7 b2 x5 30+9 b3 x4 9f"),
    ("cp437", "0+7f c7 fc e9 e2 e4 e0 e5 e7 ea+1 e8 ef ee ec c4+1 c9 e6 c6 f4 f6 f2 fb f9 ff d6 dc a2+1
      a5 20a7 192 e1 ed f3 fa f1 d1 aa ba bf 2310 ac bd bc a1 ab bb 2591+2 2502 2524 2561+1 2556
      2555 2563 2551 2557 255d 255c 255b 2510 2514 2534 252c 251c 2500 253c 255e+1 255a 2554
      2569 2566 2560 2550 256c 2567+1 2564+1 2559 2558 2552+1 256b 256a 2518 250c 2588 2584 258c
      2590 2580 3b1 df 393 3c0 3a3 3c3 b5 3c4 3a6 398 3a9 3b4 221e 3c6 3b5 2229 2261 b1 2265
      2264 2320+1 f7 2248 b0 2219 b7 221a 207f b2 25a0 a0"),
    ("cp500", "0+3 9c 9 86 7f 97 8d+1 b+8 9d 85 8 87 18+1 92 8f 1c+3 80+4 a 17 1b 88+4 5+2 90+1 16 93+3 4
      98+3 14+1 9e 1a 20 a0 e2 e4 e0+1 e3 e5 e7 f1 5b 2e 3c 28 2b 21 26 e9+2 e8 ed+2 ec df 5d 24
      2a 29 3b 5e 2d 2f c2 c4 c0+1 c3 c5 c7 d1 a6 2c 25 5f 3e+1 f8 c9+2 c8 cd+2 cc 60 3a 23 40
      27 3d 22 d8 61+8 ab bb f0 fd+1 b1 b0 6a+8 aa ba e6 b8 c6 a4 b5 7e 73+7 a1 bf d0 dd+1 ae
      a2+1 a5 b7 a9 a7 b6 bc+2 ac 7c af a8 b4 d7 7b 41+8 ad f4 f6 f2+1 f5 7d 4a+8 b9 fb+1 f9+1
      ff 5c f7 53+7 b2 d4 d6 d2+1 d5 30+9 b3 db+1 d9+1 9f"),
    ("cp720", "0+81 e9 e2 84 e0 86 e7 ea+1 e8 ef ee 8d+3 651+1 f4 a4 640 fb f9 621+3 a3 625+10 ab bb
      2591+2 2502 2524 2561+1 2556 2555 2563 2551 2557 255d 255c 255b 2510 2514 2534 252c 251c
      2500 253c 255e+1 255a 2554 2569 2566 2560 2550 256c 2567+1 2564+1 2559 2558 2552+1 256b
      256a 2518 250c 2588 2584 258c 2590 2580 636+4 641 b5 642+8 2261 64b+5 2248 b0 2219 b7 221a
      207f b2 25a0 a0"),
    ("cp737", "0+7f 391+10 3a3+6 3b1+10 3c3 3c2 3c4+4 2591+2 2502 2524 2561+1 2556 2555 2563 2551 2557
      255d 255c 255b 2510 2514 2534 252c 251c 2500 253c 255e+1 255a 2554 2569 2566 2560 2550
      256c 2567+1 2564+1 2559 2558 2552+1 256b 256a 2518 250c 2588 2584 258c 2590 2580 3c9 3ac+2
      3ca 3af 3cc+1 3cb 3ce 386 388+2 38c 38e+1 b1 2265 2264 3aa+1 f7 2248 b0 2219 b7 221a 207f
      b2 25a0 a0"),
    ("cp775", "0+7f 106 fc e9 101 e4 123 e5 107 142 113 156+1 12b 179 c4+1 c9 e6 c6 14d f6 122 a2 15a+1
      d6 dc f8 a3 d8 d7 a4 100 12a f3 17b+1 17a 201d a6 a9 ae ac bd bc 141 ab bb 2591+2 2502
      2524 104 10c 118 116 2563 2551 2557 255d 12e 160 2510 2514 2534 252c 251c 2500 253c 172
      16a 255a 2554 2569 2566 2560 2550 256c 17d 105 10d 119 117 12f 161 173 16b 17e 2518 250c
      2588 2584 258c 2590 2580 d3 df 14c 143 f5 d5 b5 144 136+1 13b+1 146 112 145 2019 ad b1
      201c be b6 a7 f7 201e b0 2219 b7 b9 b3 b2 25a0 a0"),
    ("cp850", "0+7f c7 fc e9 e2 e4 e0 e5 e7 ea+1 e8 ef ee ec c4+1 c9 e6 c6 f4 f6 f2 fb f9 ff d6 dc f8 a3
      d8 d7 192 e1 ed f3 fa f1 d1 aa ba bf ae ac bd bc a1 ab bb 2591+2 2502 2524 c1+1 c0 a9 2563
      2551 2557 255d a2 a5 2510 2514 2534 252c 251c 2500 253c e3 c3 255a 2554 2569 2566 2560
      2550 256c a4 f0 d0 ca+1 c8 131 cd+2 2518 250c 2588 2584 a6 cc 2580 d3 df d4 d2 f5 d5 b5 fe
      de da+1 d9 fd dd af b4 ad b1 2017 be b6 a7 f7 b8 b0 a8 b7 b9 b3 b2 25a0 a0"),
    ("cp852", "0+7f c7 fc e9 e2 e4 16f 107 e7 142 eb 150+1 ee 179 c4 106 c9 139+1 f4 f6 13d+1 15a+1 d6 dc
      164+1 141 d7 10d e1 ed f3 fa 104+1 17d+1 118+1 ac 17a 10c 15f ab bb 2591+2 2502 2524 c1+1
      11a 15e 2563 2551 2557 255d 17b+1 2510 2514 2534 252c 251c 2500 253c 102+1 255a 2554 2569
      2566 2560 2550 256c a4 111 110 10e cb 10f 147 cd+1 11b 2518 250c 2588 2584 162 16e 2580 d3
      df d4 143+1 148 160+1 154 da 155 170 fd dd 163 b4 ad 2dd 2db 2c7 2d8 a7 f7 b8 b0 a8 2d9
      171 158+1 25a0 a0"),
    ("cp855", "0+7f 452 402 453 403 451 401 454 404 455 405 456 406 457 407 458 408 459 409 45a 40a 45b
      40b 45c 40c 45e 40e 45f 40f 44e 42e 44a 42a 430 410 431 411 446 426 434 414 435 415 444
      424 433 413 ab bb 2591+2 2502 2524 445 425 438 418 2563 2551 2557 255d 439 419 2510 2514
      2534 252c 251c 2500 253c 43a 41a 255a 2554 2569 2566 2560 2550 256c a4 43b 41b 43c 41c 43d
      41d 43e 41e 43f 2518 250c 2588 2584 41f 44f 2580 42f 440 420 441 421 442 422 443 423 436
      416 432 412 44c 42c 2116 ad 44b 42b 437 417 448 428 44d 42d 449 429 447 427 a7 25a0 a0"),
    ("cp856", "0+7f 5d0+1a x1 a3 x1 d7 xa ae ac bd bc x1 ab bb 2591+2 2502 2524 x3 a9 2563 2551 2557 255d
      a2 a5 2510 2514 2534 252c 251c 2500 253c x2 255a 2554 2569 2566 2560 2550 256c a4 x9 2518
      250c 2588 2584 a6 x1 2580 x6 b5 x7 af b4 ad b1 2017 be b6 a7 f7 b8 b0 a8 b7 b9 b3 b2 25a0
      a0"),
    ("cp857", "0+7f c7 fc e9 e2 e4 e0 e5 e7 ea+1 e8 ef ee 131 c4+1 c9 e6 c6 f4 f6 f2 fb f9 130 d6 dc f8
      a3 d8 15e+1 e1 ed f3 fa f1 d1 11e+1 bf ae ac bd bc a1 ab bb 2591+2 2502 2524 c1+1 c0 a9
      2563 2551 2557 255d a2 a5 2510 2514 2534 252c 251c 2500 253c e3 c3 255a 2554 2569 2566
      2560 2550 256c a4 ba aa ca+1 c8 x1 cd+2 2518 250c 2588 2584 a6 cc 2580 d3 df d4 d2 f5 d5
      b5 x1 d7 da+1 d9 ec ff af b4 ad b1 x1 be b6 a7 f7 b8 b0 a8 b7 b9 b3 b2 25a0 a0"),
    ("cp858", "0+7f c7 fc e9 e2 e4 e0 e5 e7 ea+1 e8 ef ee ec c4+1 c9 e6 c6 f4 f6 f2 fb f9 ff d6 dc f8 a3
      d8 d7 192 e1 ed f3 fa f1 d1 aa ba bf ae ac bd bc a1 ab bb 2591+2 2502 2524 c1+1 c0 a9 2563
      2551 2557 255d a2 a5 2510 2514 2534 252c 251c 2500 253c e3 c3 255a 2554 2569 2566 2560
      2550 256c a4 f0 d0 ca+1 c8 20ac cd+2 2518 250c 2588 2584 a6 cc 2580 d3 df d4 d2 f5 d5 b5
      fe de da+1 d9 fd dd af b4 ad b1 2017 be b6 a7 f7 b8 b0 a8 b7 b9 b3 b2 25a0 a0"),
    ("cp860", "0+7f c7 fc e9 e2+1 e0 c1 e7 ea ca e8 cd d4 ec c3 c2 c9 c0 c8 f4+1 f2 da f9 cc d5 dc a2+1
      d9 20a7 d3 e1 ed f3 fa f1 d1 aa ba bf d2 ac bd bc a1 ab bb 2591+2 2502 2524 2561+1 2556
      2555 2563 2551 2557 255d 255c 255b 2510 2514 2534 252c 251c 2500 253c 255e+1 255a 2554
      2569 2566 2560 2550 256c 2567+1 2564+1 2559 2558 2552+1 256b 256a 2518 250c 2588 2584 258c
      2590 2580 3b1 df 393 3c0 3a3 3c3 b5 3c4 3a6 398 3a9 3b4 221e 3c6 3b5 2229 2261 b1 2265
      2264 2320+1 f7 2248 b0 2219 b7 221a 207f b2 25a0 a0"),
    ("cp861", "0+7f c7 fc e9 e2 e4 e0 e5 e7 ea+1 e8 d0 f0 de c4+1 c9 e6 c6 f4 f6 fe fb dd fd d6 dc f8 a3
      d8 20a7 192 e1 ed f3 fa c1 cd d3 da bf 2310 ac bd bc a1 ab bb 2591+2 2502 2524 2561+1 2556
      2555 2563 2551 2557 255d 255c 255b 2510 2514 2534 252c 251c 2500 253c 255e+1 255a 2554
      2569 2566 2560 2550 256c 2567+1 2564+1 2559 2558 2552+1 256b 256a 2518 250c 2588 2584 258c
      2590 2580 3b1 df 393 3c0 3a3 3c3 b5 3c4 3a6 398 3a9 3b4 221e 3c6 3b5 2229 2261 b1 2265
      2264 2320+1 f7 2248 b0 2219 b7 221a 207f b2 25a0 a0"),
    ("cp862", "0+7f 5d0+1a a2+1 a5 20a7 192 e1 ed f3 fa f1 d1 aa ba bf 2310 ac bd bc a1 ab bb 2591+2 2502
      2524 2561+1 2556 2555 2563 2551 2557 255d 255c 255b 2510 2514 2534 252c 251c 2500 253c
      255e+1 255a 2554 2569 2566 2560 2550 256c 2567+1 2564+1 2559 2558 2552+1 256b 256a 2518
      250c 2588 2584 258c 2590 2580 3b1 df 393 3c0 3a3 3c3 b5 3c4 3a6 398 3a9 3b4 221e 3c6 3b5
      2229 2261 b1 2265 2264 2320+1 f7 2248 b0 2219 b7 221a 207f b2 25a0 a0"),
    ("cp863", "0+7f c7 fc e9 e2 c2 e0 b6 e7 ea+1 e8 ef ee 2017 c0 a7 c9 c8 ca f4 cb cf fb f9 a4 d4 dc
      a2+1 d9 db 192 a6 b4 f3 fa a8 b8 b3 af ce 2310 ac bd bc be ab bb 2591+2 2502 2524 2561+1
      2556 2555 2563 2551 2557 255d 255c 255b 2510 2514 2534 252c 251c 2500 253c 255e+1 255a
      2554 2569 2566 2560 2550 256c 2567+1 2564+1 2559 2558 2552+1 256b 256a 2518 250c 2588 2584
      258c 2590 2580 3b1 df 393 3c0 3a3 3c3 b5 3c4 3a6 398 3a9 3b4 221e 3c6 3b5 2229 2261 b1
      2265 2264 2320+1 f7 2248 b0 2219 b7 221a 207f b2 25a0 a0"),
    ("cp864", "0+24 66a 26+59 b0 b7 2219+1 2592 2500 2502 253c 2524 252c 251c 2534 2510 250c 2514 2518
      3b2 221e 3c6 b1 bd bc 2248 ab bb fef7+1 x2 fefb+1 x1 a0 ad fe82 a3+1 fe84 x2 fe8e+1 fe95
      fe99 60c fe9d fea1 fea5 660+9 fed1 61b feb1 feb5 feb9 61f a2 fe80+1 fe83 fe85 feca fe8b
      fe8d fe91 fe93 fe97 fe9b fe9f fea3 fea7 fea9 feab fead feaf feb3 feb7 febb febf fec1 fec5
      fecb fecf a6 ac f7 d7 fec9 640 fed3 fed7 fedb fedf fee3 fee7 feeb feed feef fef3 febd fecc
      fece fecd fee1 fe7d 651 fee5 fee9 feec fef0 fef2 fed0 fed5 fef5+1 fedd fed9 fef1 25a0 x1"),
    ("cp865", "0+7f c7 fc e9 e2 e4 e0 e5 e7 ea+1 e8 ef ee ec c4+1 c9 e6 c6 f4 f6 f2 fb f9 ff d6 dc f8 a3
      d8 20a7 192 e1 ed f3 fa f1 d1 aa ba bf 2310 ac bd bc a1 ab a4 2591+2 2502 2524 2561+1 2556
      2555 2563 2551 2557 255d 255c 255b 2510 2514 2534 252c 251c 2500 253c 255e+1 255a 2554
      2569 2566 2560 2550 256c 2567+1 2564+1 2559 2558 2552+1 256b 256a 2518 250c 2588 2584 258c
      2590 2580 3b1 df 393 3c0 3a3 3c3 b5 3c4 3a6 398 3a9 3b4 221e 3c6 3b5 2229 2261 b1 2265
      2264 2320+1 f7 2248 b0 2219 b7 221a 207f b2 25a0 a0"),
    ("cp866", "0+7f 410+2f 2591+2 2502 2524 2561+1 2556 2555 2563 2551 2557 255d 255c 255b 2510 2514 2534
      252c 251c 2500 253c 255e+1 255a 2554 2569 2566 2560 2550 256c 2567+1 2564+1 2559 2558
      2552+1 256b 256a 2518 250c 2588 2584 258c 2590 2580 440+f 401 451 404 454 407 457 40e 45e
      b0 2219 b7 221a 2116 a4 25a0 a0"),
    ("cp869", "0+7f x6 386 x1 b7 ac a6 2018+1 388 2015 389+1 3aa 38c x2 38e 3ab a9 38f b2+1 3ac a3 3ad+2
      3ca 390 3cc+1 391+6 bd 398+1 ab bb 2591+2 2502 2524 39a+3 2563 2551 2557 255d 39e+1 2510
      2514 2534 252c 251c 2500 253c 3a0+1 255a 2554 2569 2566 2560 2550 256c 3a3+6 3b1+2 2518
      250c 2588 2584 3b4+1 2580 3b6+b 3c3 3c2 3c4 384 ad b1 3c5+2 a7 3c8 385 b0 a8 3c9 3cb 3b0
      3ce 25a0 a0"),
    ("cp874", "0+7f 20ac x4 2026 xb 2018+1 201c+1 2022 2013+1 x8 a0 e01+39 x4 e3f+1c x4"),
    ("cp875", "0+3 9c 9 86 7f 97 8d+1 b+8 9d 85 8 87 18+1 92 8f 1c+3 80+4 a 17 1b 88+4 5+2 90+1 16 93+3 4
      98+3 14+1 9e 1a 20 391+8 5b 2e 3c 28 2b 21 26 39a+7 3a3 5d 24 2a 29 3b 5e 2d 2f 3a4+7 7c
      2c 25 5f 3e+1 a8 386 388+1 a0 38a 38c 38e+1 60 3a 23 40 27 3d 22 385 61+8 3b1+5 b0 6a+8
      3b7+5 b4 7e 73+7 3bd+4 3c3 a3 3ac+2 3ca 3af 3cc+1 3cb 3ce 3c2 3c4+4 7b 41+8 ad 3c9 390 3b0
      2018 2015 7d 4a+8 b1 bd 1a 387 2019 a6 5c 1a 53+7 b2 a7 1a 1a ab+1 30+9 b3 a9 1a 1a bb 9f"),
    ("hp_roman8", "0+a0 c0 c2 c8 ca+1 ce+1 b4 2cb 2c6 a8 2dc d9 db 20a4 af dd fd b0 c7 e7 d1 f1 a1 bf a4 a3
      a5 a7 192 a2 e2 ea f4 fb e1 e9 f3 fa e0 e8 f2 f9 e4 eb f6 fc c5 ee d8 c6 e5 ed f8 e6 c4 ec
      d6 dc c9 ef df d4 c1 c3 e3 d0 f0 cd cc d3 d2 d5 f5 160+1 da 178 ff de fe b7 b5+1 be 2014
      bc+1 aa ba ab 25a0 bb b1 x1"),
    ("iso8859_1", "0+ff"),
    ("iso8859_10", "0+a0 104 112 122 12a 128 136 a7 13b 110 160 166 17d ad 16a 14a b0 105 113 123 12b 129 137
      b7 13c 111 161 167 17e 2015 16b 14b 100 c1+5 12e 10c c9 118 cb 116 cd+3 145 14c d3+3 168
      d8 172 da+5 101 e1+5 12f 10d e9 119 eb 117 ed+3 146 14d f3+3 169 f8 173 fa+4 138"),
    ("iso8859_11", "0+a0 e01+39 x4 e3f+1c x4"),
    ("iso8859_13", "0+a0 201d a2+2 201e a6+1 d8 a9 156 ab+3 c6 b0+3 201c b5+2 f8 b9 157 bb+3 e6 104 12e 100
      106 c4+1 118 112 10c c9 179 116 122 136 12a 13b 160 143 145 d3 14c d5+2 172 141 15a 16a dc
      17b 17d df 105 12f 101 107 e4+1 119 113 10d e9 17a 117 123 137 12b 13c 161 144 146 f3 14d
      f5+2 173 142 15b 16b fc 17c 17e 2019"),
    ("iso8859_14", "0+a0 1e02+1 a3 10a+1 1e0a a7 1e80 a9 1e82 1e0b 1ef2 ad+1 178 1e1e+1 120+1 1e40+1 b6 1e56
      1e81 1e57 1e83 1e60 1ef3 1e84+1 1e61 c0+f 174 d1+5 1e6a d8+5 176 df+10 175 f1+5 1e6b f8+5
      177 ff"),
    ("iso8859_15", "0+a3 20ac a5 160 a7 161 a9+a 17d b5+2 17e b9+2 152+1 178 bf+40"),
    ("iso8859_16", "0+a0 104+1 141 20ac 201e 160 a7 161 a9 218 ab 179 ad 17a+1 b0+1 10c 142 17d 201d b6+1 17e
      10d 219 bb 152+1 178 17c c0+2 102 c4 106 c6+9 110 143 d2+2 150 d6 15a 170 d9+3 118 21a
      df+3 103 e4 107 e6+9 111 144 f2+2 151 f6 15b 171 f9+3 119 21b ff"),
    ("iso8859_2", "0+a0 104 2d8 141 a4 13d 15a a7+1 160 15e 164 179 ad 17d 17b b0 105 2db 142 b4 13e 15b 2c7
      b8 161 15f 165 17a 2dd 17e 17c 154 c1+1 102 c4 139 106 c7 10c c9 118 cb 11a cd+1 10e 110
      143 147 d3+1 150 d6+1 158 16e da 170 dc+1 162 df 155 e1+1 103 e4 13a 107 e7 10d e9 119 eb
      11b ed+1 10f 111 144 148 f3+1 151 f6+1 159 16f fa 171 fc+1 163 2d9"),
    ("iso8859_3", "0+a0 126 2d8 a3+1 x1 124 a7+1 130 15e 11e 134 ad x1 17b b0 127 b2+3 125 b7+1 131 15f 11f
      135 bd x1 17c c0+2 x1 c4 10a 108 c7+8 x1 d1+3 120 d6+1 11c d9+3 16c 15c df+3 x1 e4 10b 109
      e7+8 x1 f1+3 121 f6+1 11d f9+3 16d 15d 2d9"),
    ("iso8859_4", "0+a0 104 138 156 a4 128 13b a7+1 160 112 122 166 ad 17d af+1 105 2db 157 b4 129 13c 2c7 b8
      161 113 123 167 14a 17e 14b 100 c1+5 12e 10c c9 118 cb 116 cd+1 12a 110 145 14c 136 d4+4
      172 da+2 168 16a df 101 e1+5 12f 10d e9 119 eb 117 ed+1 12b 111 146 14d 137 f4+4 173 fa+2
      169 16b 2d9"),
    ("iso8859_5", "0+a0 401+b ad 40e+41 2116 451+b a7 45e+1"),
    ("iso8859_6", "0+a0 x3 a4 x7 60c ad xd 61b x3 61f x1 621+19 x5 640+12 xd"),
    ("iso8859_7", "0+a0 2018+1 a3 20ac 20af a6+3 37a ab+2 x1 2015 b0+3 384+2 b7 388+2 bb 38c bd 38e+13 x1
      3a3+2b x1"),
    ("iso8859_8", "0+a0 x1 a2+7 d7 ab+e f7 bb+3 x20 2017 5d0+1a x2 200e+1 x1"),
    ("iso8859_9", "0+cf 11e d1+b 130 15e df+10 11f f1+b 131 15f ff"),
    ("koi8_r", "0+7f 2500 2502 250c 2510 2514 2518 251c 2524 252c 2534 253c 2580 2584 2588 258c 2590+3
      2320 25a0 2219+1 2248 2264+1 a0 2321 b0 b2 b7 f7 2550+2 451 2553+e 401 2562+a a9 44e 430+1
      446 434+1 444 433 445 438+7 44f 440+3 436 432 44c 44b 437 448 44d 449 447 44a 42e 410+1
      426 414+1 424 413 425 418+7 42f 420+3 416 412 42c 42b 417 428 42d 429 427 42a"),
    ("koi8_t", "0+7f 49b 493 201a 492 201e 2026 2020+1 x1 2030 4b3 2039 4b2 4b7 4b6 x1 49a 2018+1 201c+1
      2022 2013+1 x1 2122 x1 203a x5 4ef 4ee 451 a4 4e3 a6+1 x3 ab+3 x1 b0+2 401 x1 4e2 b6+1 x1
      2116 x1 bb x3 a9 44e 430+1 446 434+1 444 433 445 438+7 44f 440+3 436 432 44c 44b 437 448
      44d 449 447 44a 42e 410+1 426 414+1 424 413 425 418+7 42f 420+3 416 412 42c 42b 417 428
      42d 429 427 42a"),
    ("koi8_u", "0+7f 2500 2502 250c 2510 2514 2518 251c 2524 252c 2534 253c 2580 2584 2588 258c 2590+3
      2320 25a0 2219+1 2248 2264+1 a0 2321 b0 b2 b7 f7 2550+2 451 454 2554 456+1 2557+4 491
      255d+4 401 404 2563 406+1 2566+4 490 256c a9 44e 430+1 446 434+1 444 433 445 438+7 44f
      440+3 436 432 44c 44b 437 448 44d 449 447 44a 42e 410+1 426 414+1 424 413 425 418+7 42f
      420+3 416 412 42c 42b 417 428 42d 429 427 42a"),
    ("kz1048", "0+7f 402+1 201a 453 201e 2026 2020+1 20ac 2030 409 2039 40a 49a 4ba 40f 452 2018+1 201c+1
      2022 2013+1 x1 2122 459 203a 45a 49b 4bb 45f a0 4b0+1 4d8 a4 4e8 a6+1 401 a9 492 ab+3 4ae
      b0+1 406 456 4e9 b5+2 451 2116 493 bb 4d9 4a2+1 4af 410+3f"),
    ("mac_arabic", "0+7f c4 a0 c7 c9 d1 d6 dc e1 e0 e2 e4 6ba ab e7 e9 e8 ea+1 ed 2026 ee+1 f1 f3 bb f4 f6+1
      fa f9 fb+1 20+4 66a 26+5 60c 2d+2 660+9 3a 61b 3c+2 61f 274a 621+19 5b+4 640+12 67e 679
      686 6d5 6a4 6af 688 691 7b+2 698 6d2"),
    ("mac_croatian", "0+7f c4+1 c7 c9 d1 d6 dc e1 e0 e2 e4 e3 e5 e7 e9 e8 ea+1 ed ec ee+1 f1 f3 f2 f4 f6 f5 fa
      f9 fb+1 2020 b0 a2+1 a7 2022 b6 df ae 160 2122 b4 a8 2260 17d d8 221e b1 2264+1 2206 b5
      2202 2211 220f 161 222b aa ba 3a9 17e f8 bf a1 ac 221a 192 2248 106 ab 10c 2026 a0 c0 c3
      d5 152+1 110 2014 201c+1 2018+1 f7 25ca f8ff a9 2044 20ac 2039+1 c6 bb 2013 b7 201a 201e
      2030 c2 107 c1 10d c8 cd+2 cc d3+1 111 d2 da+1 d9 131 2c6 2dc af 3c0 cb 2da b8 ca e6 2c7"),
    ("mac_cyrillic", "0+7f 410+1f 2020 b0 490 a3 a7 2022 b6 406 ae a9 2122 402 452 2260 403 453 221e b1 2264+1
      456 b5 491 408 404 454 407 457 409 459 40a 45a 458 405 ac 221a 192 2248 2206 ab bb 2026 a0
      40b 45b 40c 45c 455 2013+1 201c+1 2018+1 f7 201e 40e 45e 40f 45f 2116 401 451 44f 430+1e
      20ac"),
    ("mac_farsi", "0+7f c4 a0 c7 c9 d1 d6 dc e1 e0 e2 e4 6ba ab e7 e9 e8 ea+1 ed 2026 ee+1 f1 f3 bb f4 f6+1
      fa f9 fb+1 20+4 66a 26+5 60c 2d+2 6f0+9 3a 61b 3c+2 61f 274a 621+19 5b+4 640+12 67e 679
      686 6d5 6a4 6af 688 691 7b+2 698 6d2"),
    ("mac_greek", "0+7f c4 b9 b2 c9 b3 d6 dc 385 e0 e2 e4 384 a8 e7 e9 e8 ea+1 a3 2122 ee+1 2022 bd 2030 f4
      f6 a6 20ac f9 fb+1 2020 393+1 398 39b 39e 3a0 df ae a9 3a3 3aa a7 2260 b0 b7 391 b1 2264+1
      a5 392 395+2 399+1 39c 3a6 3ab 3a8+1 3ac 39d ac 39f 3a1 2248 3a4 ab bb 2026 a0 3a5 3a7 386
      388 153 2013 2015 201c+1 2018+1 f7 389+1 38c 38e 3ad+2 3cc 38f 3cd 3b1+1 3c8 3b4+1 3c6 3b3
      3b7 3b9 3be 3ba+3 3bf+1 3ce 3c1 3c3+1 3b8 3c9 3c2 3c7 3c5 3b6 3ca+1 390 3b0 ad"),
    ("mac_iceland", "0+7f c4+1 c7 c9 d1 d6 dc e1 e0 e2 e4 e3 e5 e7 e9 e8 ea+1 ed ec ee+1 f1 f3 f2 f4 f6 f5 fa
      f9 fb+1 dd b0 a2+1 a7 2022 b6 df ae a9 2122 b4 a8 2260 c6 d8 221e b1 2264+1 a5 b5 2202
      2211 220f 3c0 222b aa ba 3a9 e6 f8 bf a1 ac 221a 192 2248 2206 ab bb 2026 a0 c0 c3 d5
      152+1 2013+1 201c+1 2018+1 f7 25ca ff 178 2044 20ac d0 f0 de fe fd b7 201a 201e 2030 c2 ca
      c1 cb c8 cd+2 cc d3+1 f8ff d2 da+1 d9 131 2c6 2dc af 2d8+2 b8 2dd 2db 2c7"),
    ("mac_latin2", "0+7f c4 100+1 c9 104 d6 dc e1 105 10c e4 10d 106+1 e9 179+1 10e ed 10f 112+1 116 f3 117 f4
      f6 f5 fa 11a+1 fc 2020 b0 118 a3 a7 2022 b6 df ae a9 2122 119 a8 2260 123 12e+1 12a 2264+1
      12b 136 2202 2211 142 13b+3 139+1 145+1 143 ac 221a 144 147 2206 ab bb 2026 a0 148 150 d5
      151 14c 2013+1 201c+1 2018+1 f7 25ca 14d 154+1 158 2039+1 159 156+1 160 201a 201e 161
      15a+1 c1 164+1 cd 17d+1 16a d3+1 16b 16e da 16f+4 dd fd 137 17b 141 17c 122 2c7"),
    ("mac_roman", "0+7f c4+1 c7 c9 d1 d6 dc e1 e0 e2 e4 e3 e5 e7 e9 e8 ea+1 ed ec ee+1 f1 f3 f2 f4 f6 f5 fa
      f9 fb+1 2020 b0 a2+1 a7 2022 b6 df ae a9 2122 b4 a8 2260 c6 d8 221e b1 2264+1 a5 b5 2202
      2211 220f 3c0 222b aa ba 3a9 e6 f8 bf a1 ac 221a 192 2248 2206 ab bb 2026 a0 c0 c3 d5
      152+1 2013+1 201c+1 2018+1 f7 25ca ff 178 2044 20ac 2039+1 fb01+1 2021 b7 201a 201e 2030
      c2 ca c1 cb c8 cd+2 cc d3+1 f8ff d2 da+1 d9 131 2c6 2dc af 2d8+2 b8 2dd 2db 2c7"),
    ("mac_romanian", "0+7f c4+1 c7 c9 d1 d6 dc e1 e0 e2 e4 e3 e5 e7 e9 e8 ea+1 ed ec ee+1 f1 f3 f2 f4 f6 f5 fa
      f9 fb+1 2020 b0 a2+1 a7 2022 b6 df ae a9 2122 b4 a8 2260 102 218 221e b1 2264+1 a5 b5 2202
      2211 220f 3c0 222b aa ba 3a9 103 219 bf a1 ac 221a 192 2248 2206 ab bb 2026 a0 c0 c3 d5
      152+1 2013+1 201c+1 2018+1 f7 25ca ff 178 2044 20ac 2039+1 21a+1 2021 b7 201a 201e 2030 c2
      ca c1 cb c8 cd+2 cc d3+1 f8ff d2 da+1 d9 131 2c6 2dc af 2d8+2 b8 2dd 2db 2c7"),
    ("mac_turkish", "0+7f c4+1 c7 c9 d1 d6 dc e1 e0 e2 e4 e3 e5 e7 e9 e8 ea+1 ed ec ee+1 f1 f3 f2 f4 f6 f5 fa
      f9 fb+1 2020 b0 a2+1 a7 2022 b6 df ae a9 2122 b4 a8 2260 c6 d8 221e b1 2264+1 a5 b5 2202
      2211 220f 3c0 222b aa ba 3a9 e6 f8 bf a1 ac 221a 192 2248 2206 ab bb 2026 a0 c0 c3 d5
      152+1 2013+1 201c+1 2018+1 f7 25ca ff 178 11e+1 130+1 15e+1 2021 b7 201a 201e 2030 c2 ca
      c1 cb c8 cd+2 cc d3+1 f8ff d2 da+1 d9 f8a0 2c6 2dc af 2d8+2 b8 2dd 2db 2c7"),
    ("palmos", "0+7f 20ac 81 201a 192 201e 2026 2020+1 2c6 2030 160 2039 152 2666 2663 2665 2660 2018+1
      201c+1 2022 2013+1 2dc 2122 161 9b 153 9d+1 178 a0+5f"),
    ("ptcp154", "0+7f 496 492 4ee 493 201e 2026 4b6 4ae 4b2 4af 4a0 4e2 4a2 49a 4ba 4b8 497 2018+1 201c+1
      2022 2013+1 4b3 4b7 4a1 4e3 4a3 49b 4bb 4b9 a0 40e 45e 408 4e8 498 4b0 a7 401 a9 4d8 ab+1
      4ef ae 49c b0 4b1 406 456 499 4e9 b6+1 451 2116 4d9 bb 458 4aa+1 49d 410+3f"),
    ("tis_620", "0+9f x1 e01+39 x4 e3f+1c x4"),
    ("latin_1", "0+ff"),
    ("charmap", "0+ff")]

/-- Other names of character sets. -/
def otherNames : List (String × String) :=
  [("037", "cp037"), ("1026", "cp1026"), ("1125", "cp1125"), ("1140", "cp1140"),
    ("1250", "cp1250"), ("1251", "cp1251"), ("1252", "cp1252"), ("1253", "cp1253"),
    ("1254", "cp1254"), ("1255", "cp1255"), ("1256", "cp1256"), ("1257", "cp1257"),
    ("1258", "cp1258"), ("273", "cp273"), ("424", "cp424"), ("437", "cp437"), ("500", "cp500"),
    ("646", "ascii"), ("775", "cp775"), ("850", "cp850"), ("852", "cp852"), ("855", "cp855"),
    ("857", "cp857"), ("858", "cp858"), ("860", "cp860"), ("861", "cp861"), ("862", "cp862"),
    ("863", "cp863"), ("864", "cp864"), ("865", "cp865"), ("866", "cp866"), ("869", "cp869"),
    ("8859", "latin_1"), ("932", "cp932"), ("936", "gbk"), ("949", "cp949"), ("950", "cp950"),
    ("ansi_x3.4_1968", "ascii"), ("ansi_x3.4_1986", "ascii"), ("ansi_x3_4_1968", "ascii"),
    ("arabic", "iso8859_6"), ("asmo_708", "iso8859_6"), ("big5_tw", "big5"),
    ("chinese", "gb2312"), ("cp1051", "hp_roman8"), ("cp154", "ptcp154"), ("cp367", "ascii"),
    ("cp65001", "utf_8"), ("cp819", "latin_1"), ("cp866u", "cp1125"), ("cp936", "gbk"),
    ("cp_gr", "cp869"), ("cp_is", "cp861"), ("csHPRoman8", "hp_roman8"), ("csascii", "ascii"),
    ("csbig5", "big5"), ("csibm037", "cp037"), ("csibm1026", "cp1026"), ("csibm273", "cp273"),
    ("csibm424", "cp424"), ("csibm500", "cp500"), ("csibm855", "cp855"), ("csibm857", "cp857"),
    ("csibm858", "cp858"), ("csibm860", "cp860"), ("csibm861", "cp861"), ("csibm863", "cp863"),
    ("csibm864", "cp864"), ("csibm865", "cp865"), ("csibm866", "cp866"), ("csibm869", "cp869"),
    ("csiso58gb231280", "gb2312"), ("csisolatin1", "latin_1"), ("csisolatin2", "iso8859_2"),
    ("csisolatin3", "iso8859_3"), ("csisolatin4", "iso8859_4"), ("csisolatin5", "iso8859_9"),
    ("csisolatin6", "iso8859_10"), ("csisolatinarabic", "iso8859_6"),
    ("csisolatincyrillic", "iso8859_5"), ("csisolatingreek", "iso8859_7"),
    ("csisolatinhebrew", "iso8859_8"), ("cskoi8r", "koi8_r"), ("cspc775baltic", "cp775"),
    ("cspc850multilingual", "cp850"), ("cspc862latinhebrew", "cp862"),
    ("cspc8codepage437", "cp437"), ("cspcp852", "cp852"), ("csptcp154", "ptcp154"),
    ("csshiftjis", "shift_jis"), ("cyrillic", "iso8859_5"), ("cyrillic_asian", "ptcp154"),
    ("ebcdic_cp_be", "cp500"), ("ebcdic_cp_ca", "cp037"), ("ebcdic_cp_ch", "cp500"),
    ("ebcdic_cp_he", "cp424"), ("ebcdic_cp_nl", "cp037"), ("ebcdic_cp_us", "cp037"),
    ("ebcdic_cp_wt", "cp037"), ("ecma_114", "iso8859_6"), ("ecma_118", "iso8859_7"),
    ("elot_928", "iso8859_7"), ("euc_cn", "gb2312"), ("euccn", "gb2312"),
    ("eucgb2312_cn", "gb2312"), ("eucjp", "euc_jp"), ("euckr", "euc_kr"),
    ("gb18030_2000", "gb18030"), ("gb2312_1980", "gb2312"), ("gb2312_80", "gb2312"),
    ("greek", "iso8859_7"), ("greek8", "iso8859_7"), ("hebrew", "iso8859_8"),
    ("ibm037", "cp037"), ("ibm039", "cp037"), ("ibm1026", "cp1026"), ("ibm1051", "hp_roman8"),
    ("ibm1125", "cp1125"), ("ibm1140", "cp1140"), ("ibm273", "cp273"), ("ibm367", "ascii"),
    ("ibm424", "cp424"), ("ibm437", "cp437"), ("ibm500", "cp500"), ("ibm775", "cp775"),
    ("ibm819", "latin_1"), ("ibm850", "cp850"), ("ibm852", "cp852"), ("ibm855", "cp855"),
    ("ibm857", "cp857"), ("ibm858", "cp858"), ("ibm860", "cp860"), ("ibm861", "cp861"),
    ("ibm862", "cp862"), ("ibm863", "cp863"), ("ibm864", "cp864"), ("ibm865", "cp865"),
    ("ibm866", "cp866"), ("ibm869", "cp869"), ("iso646_us", "ascii"), ("iso8859", "latin_1"),
    ("iso8859_1", "latin_1"), ("iso_646.irv_1991", "ascii"), ("iso_8859_1", "latin_1"),
    ("iso_8859_10", "iso8859_10"), ("iso_8859_10_1992", "iso8859_10"),
    ("iso_8859_11", "iso8859_11"), ("iso_8859_11_2001", "iso8859_11"),
    ("iso_8859_13", "iso8859_13"), ("iso_8859_14", "iso8859_14"),
    ("iso_8859_14_1998", "iso8859_14"), ("iso_8859_15", "iso8859_15"),
    ("iso_8859_16", "iso8859_16"), ("iso_8859_16_2001", "iso8859_16"),
    ("iso_8859_1_1987", "latin_1"), ("iso_8859_2", "iso8859_2"),
    ("iso_8859_2_1987", "iso8859_2"), ("iso_8859_3", "iso8859_3"),
    ("iso_8859_3_1988", "iso8859_3"), ("iso_8859_4", "iso8859_4"),
    ("iso_8859_4_1988", "iso8859_4"), ("iso_8859_5", "iso8859_5"),
    ("iso_8859_5_1988", "iso8859_5"), ("iso_8859_6", "iso8859_6"),
    ("iso_8859_6_1987", "iso8859_6"), ("iso_8859_7", "iso8859_7"),
    ("iso_8859_7_1987", "iso8859_7"), ("iso_8859_8", "iso8859_8"),
    ("iso_8859_8_1988", "iso8859_8"), ("iso_8859_9", "iso8859_9"),
    ("iso_8859_9_1989", "iso8859_9"), ("iso_celtic", "iso8859_14"), ("iso_ir_100", "latin_1"),
    ("iso_ir_101", "iso8859_2"), ("iso_ir_109", "iso8859_3"), ("iso_ir_110", "iso8859_4"),
    ("iso_ir_126", "iso8859_7"), ("iso_ir_127", "iso8859_6"), ("iso_ir_138", "iso8859_8"),
    ("iso_ir_144", "iso8859_5"), ("iso_ir_148", "iso8859_9"), ("iso_ir_157", "iso8859_10"),
    ("iso_ir_166", "tis_620"), ("iso_ir_199", "iso8859_14"), ("iso_ir_226", "iso8859_16"),
    ("iso_ir_58", "gb2312"), ("iso_ir_6", "ascii"), ("korean", "euc_kr"),
    ("ks_c_5601", "euc_kr"), ("ks_c_5601_1987", "euc_kr"), ("ks_x_1001", "euc_kr"),
    ("ksc5601", "euc_kr"), ("ksx1001", "euc_kr"), ("kz_1048", "kz1048"), ("l1", "latin_1"),
    ("l10", "iso8859_16"), ("l2", "iso8859_2"), ("l3", "iso8859_3"), ("l4", "iso8859_4"),
    ("l5", "iso8859_9"), ("l6", "iso8859_10"), ("l7", "iso8859_13"), ("l8", "iso8859_14"),
    ("l9", "iso8859_15"), ("latin", "latin_1"), ("latin1", "latin_1"), ("latin10", "iso8859_16"),
    ("latin2", "iso8859_2"), ("latin3", "iso8859_3"), ("latin4", "iso8859_4"),
    ("latin5", "iso8859_9"), ("latin6", "iso8859_10"), ("latin7", "iso8859_13"),
    ("latin8", "iso8859_14"), ("latin9", "iso8859_15"), ("mac_centeuro", "mac_latin2"),
    ("maccentraleurope", "mac_latin2"), ("maccyrillic", "mac_cyrillic"),
    ("macgreek", "mac_greek"), ("maciceland", "mac_iceland"), ("macintosh", "mac_roman"),
    ("maclatin2", "mac_latin2"), ("macroman", "mac_roman"), ("macturkish", "mac_turkish"),
    ("ms932", "cp932"), ("ms936", "gbk"), ("ms949", "cp949"), ("ms950", "cp950"),
    ("ms_kanji", "cp932"), ("mskanji", "cp932"), ("pt154", "ptcp154"), ("r8", "hp_roman8"),
    ("rk1048", "kz1048"), ("roman8", "hp_roman8"), ("ruscii", "cp1125"), ("s_jis", "shift_jis"),
    ("shiftjis", "shift_jis"), ("sjis", "shift_jis"), ("strk1048_2002", "kz1048"),
    ("thai", "iso8859_11"), ("tis620", "tis_620"), ("tis_620_0", "tis_620"),
    ("tis_620_2529_0", "tis_620"), ("tis_620_2529_1", "tis_620"), ("u16", "utf_16"),
    ("u32", "utf_32"), ("u8", "utf_8"), ("u_jis", "euc_jp"), ("uhc", "cp949"),
    ("ujis", "euc_jp"), ("unicodebigunmarked", "utf_16_be"),
    ("unicodelittleunmarked", "utf_16_le"), ("us", "ascii"), ("us_ascii", "ascii"),
    ("utf", "utf_8"), ("utf16", "utf_16"), ("utf32", "utf_32"), ("utf8", "utf_8"),
    ("utf8_ucs2", "utf_8"), ("utf8_ucs4", "utf_8"), ("utf_16be", "utf_16_be"),
    ("utf_16le", "utf_16_le"), ("utf_32be", "utf_32_be"), ("utf_32le", "utf_32_le"),
    ("windows_1250", "cp1250"), ("windows_1251", "cp1251"), ("windows_1252", "cp1252"),
    ("windows_1253", "cp1253"), ("windows_1254", "cp1254"), ("windows_1255", "cp1255"),
    ("windows_1256", "cp1256"), ("windows_1257", "cp1257"), ("windows_1258", "cp1258"),
    ("x_mac_japanese", "shift_jis"), ("x_mac_korean", "euc_kr"),
    ("x_mac_simp_chinese", "gb2312"), ("x_mac_trad_chinese", "big5"), ("csiso2022jp", "iso2022_jp"),
    ("csiso2022kr", "iso2022_kr"), ("hz_gb", "hz"), ("hz_gb_2312", "hz"), ("hzgb", "hz"),
    ("iso2022jp", "iso2022_jp"), ("iso2022kr", "iso2022_kr"), ("iso_2022_jp", "iso2022_jp"),
    ("iso_2022_kr", "iso2022_kr"), ("u7", "utf_7"), ("unicode_1_1_utf_7", "utf_7"), ("utf7", "utf_7")]

end ContentBinding.Text.Charset
