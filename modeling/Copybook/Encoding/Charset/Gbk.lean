import Copybook.Encoding.Charset

/-!
What the Chinese sets of later standards add to the basic set. -/
namespace Copybook
namespace Charset

/-- Symbols and ideographs of the extended set, apart from the ideographs in code order. -/
def gbk : Charset := [
  ⟨0xA1, 0xA4, "·     —"⟩,
  ⟨0xA2, 0xA1, "ⅰⅱⅲⅳⅴⅵⅶⅷⅸⅹ"⟩,
  ⟨0xA6, 0xE0, "︵︶︹︺︿﹀︽︾﹁﹂﹃﹄  ︻︼︷︸︱ ︳︴"⟩,
  ⟨0xA8, 0x40, "ˊˋ˙–―‥‵℅℉↖↗↘↙∕∟∣≒≦≧⊿═║╒╓╔╕╖╗╘╙╚╛╜╝╞╟╠╡╢╣╤╥╦╧╨╩╪"⟩,
  ⟨0xA8, 0x6F, "╫╬╭╮╯╰╱╲╳▁▂▃▄▅▆▇ █▉▊▋▌▍▎▏▓▔▕▼▽◢◣◤◥☉⊕〒〝〞"⟩,
  ⟨0xA8, 0xBB, "ɑ ńň ɡ"⟩,
  ⟨0xA9, 0x40, "〡〢〣〤〥〦〧〨〩㊣㎎㎏㎜㎝㎞㎡㏄㏎㏑㏒㏕︰￢￤ ℡㈱ ‐   ー゛゜ヽヾ〆ゝゞ﹉﹊﹋﹌﹍﹎﹏"⟩,
  ⟨0xA9, 0x6F, "﹐﹑﹒﹔﹕﹖﹗﹙﹚﹛﹜﹝﹞﹟﹠﹡ ﹢﹣﹤﹥﹦﹨﹩﹪﹫"⟩,
  ⟨0xA9, 0x96, "〇"⟩,
  ⟨0xFD, 0x9C, "郎凉秊裏隣"⟩,
  ⟨0xFE, 0x40, "兀嗀﨎﨏﨑﨓﨔礼﨟蘒﨡﨣﨤﨧﨨﨩"⟩]

/-- What the full set adds again, apart from the private area. -/
def gb18030 : Charset := [
  ⟨0xA2, 0xAB, "\ue766\ue767\ue768\ue769\ue76a\ue76b"⟩,
  ⟨0xA2, 0xE3, "€\ue76d"⟩,
  ⟨0xA2, 0xEF, "\ue76e\ue76f"⟩,
  ⟨0xA2, 0xFD, "\ue770\ue771"⟩,
  ⟨0xA4, 0xF4, "\ue772\ue773\ue774\ue775\ue776\ue777\ue778\ue779\ue77a\ue77b\ue77c"⟩,
  ⟨0xA5, 0xF7, "\ue77d\ue77e\ue77f\ue780\ue781\ue782\ue783\ue784"⟩,
  ⟨0xA6, 0xB9, "\ue785\ue786\ue787\ue788\ue789\ue78a\ue78b\ue78c"⟩,
  ⟨0xA6, 0xD9, "\ue78d\ue78e\ue78f\ue790\ue791\ue792\ue793"⟩,
  ⟨0xA6, 0xEC, "\ue794\ue795     \ue796  \ue797\ue798\ue799\ue79a\ue79b\ue79c\ue79d\ue79e\ue79f"⟩,
  ⟨0xA7, 0xC2, "\ue7a0\ue7a1\ue7a2\ue7a3\ue7a4\ue7a5\ue7a6\ue7a7\ue7a8\ue7a9\ue7aa\ue7ab\ue7ac"⟩,
  ⟨0xA7, 0xCF, "\ue7ad\ue7ae"⟩,
  ⟨0xA7, 0xF2, "\ue7af\ue7b0\ue7b1\ue7b2\ue7b3\ue7b4\ue7b5\ue7b6\ue7b7\ue7b8\ue7b9\ue7ba\ue7bb"⟩,
  ⟨0xA8, 0x96, "\ue7bc\ue7bd\ue7be\ue7bf\ue7c0\ue7c1\ue7c2\ue7c3\ue7c4\ue7c5\ue7c6"⟩,
  ⟨0xA8, 0xBC, "\ue7c7  ǹ \ue7c9\ue7ca\ue7cb\ue7cc"⟩,
  ⟨0xA8, 0xEA, "\ue7cd\ue7ce\ue7cf\ue7d0\ue7d1\ue7d2\ue7d3\ue7d4\ue7d5\ue7d6\ue7d7\ue7d8\ue7d9"⟩,
  ⟨0xA8, 0xF7, "\ue7da\ue7db\ue7dc\ue7dd\ue7de\ue7df\ue7e0\ue7e1"⟩,
  ⟨0xA9, 0x58, "\ue7e2  \ue7e3 \ue7e4\ue7e5\ue7e6"⟩,
  ⟨0xA9, 0x89, "〾⿰⿱⿲⿳⿴⿵⿶⿷⿸⿹⿺⿻ \ue7f4\ue7f5\ue7f6\ue7f7\ue7f8\ue7f9\ue7fa\ue7fb\ue7fc\ue7fd"⟩,
  ⟨0xA9, 0xA1, "\ue7fe\ue7ff\ue800"⟩,
  ⟨0xA9, 0xF0, "\ue801\ue802\ue803\ue804\ue805\ue806\ue807\ue808\ue809\ue80a\ue80b\ue80c\ue80d"⟩,
  ⟨0xA9, 0xFD, "\ue80e\ue80f"⟩,
  ⟨0xD7, 0xFA, "\ue810\ue811\ue812\ue813\ue814"⟩,
  ⟨0xFE, 0x50, "⺁\ue816\ue817\ue818⺄㑳㑇⺈⺋\ue81e㖞㘚㘎⺌⺗㥮㤘\ue826㧏㧟㩳㧐\ue82b\ue82c㭎㱮㳠⺧\ue831\ue832"⟩,
  ⟨0xFE, 0x6E, "⺪䁖䅟⺮䌷⺳⺶⺷\ue83b䎱䎬⺻䏝䓖䙡䙌\ue843 䜣䜩䝼䞍⻊䥇䥺䥽䦂䦃䦅䦆䦟䦛䦷䦶\ue854\ue855䲣䲟䲠䲡䱷䲢䴓䴔䴕䴖䴗"⟩,
  ⟨0xFE, 0x9D, "䴘䴙䶮\ue864"⟩]

/-- The characters below U+10000 that have no code of two bytes, as runs: the first, and how many
there are. -/
def fourByteRuns : List (Nat × Nat) := [
  (0x80, 36), (0xA5, 2), (0xA9, 7), (0xB2, 5), (0xB8, 31), (0xD8, 8), (0xE2, 6), (0xEB, 1),
  (0xEE, 4), (0xF4, 3), (0xF8, 1), (0xFB, 1), (0xFD, 4), (0x102, 17), (0x114, 7), (0x11C, 15),
  (0x12C, 24), (0x145, 3), (0x149, 4), (0x14E, 29), (0x16C, 98), (0x1CF, 1), (0x1D1, 1),
  (0x1D3, 1), (0x1D5, 1), (0x1D7, 1), (0x1D9, 1), (0x1DB, 1), (0x1DD, 28), (0x1FA, 87),
  (0x252, 15), (0x262, 101), (0x2C8, 1), (0x2CC, 13), (0x2DA, 183), (0x3A2, 1), (0x3AA, 7),
  (0x3C2, 1), (0x3CA, 55), (0x402, 14), (0x450, 1), (0x452, 7102), (0x2011, 2), (0x2017, 1),
  (0x201A, 2), (0x201E, 7), (0x2027, 9), (0x2031, 1), (0x2034, 1), (0x2036, 5), (0x203C, 112),
  (0x20AD, 86), (0x2104, 1), (0x2106, 3), (0x210A, 12), (0x2117, 10), (0x2122, 62), (0x216C, 4),
  (0x217A, 22), (0x2194, 2), (0x219A, 110), (0x2209, 6), (0x2210, 1), (0x2212, 3), (0x2216, 4),
  (0x221B, 2), (0x2221, 2), (0x2224, 1), (0x2226, 1), (0x222C, 2), (0x222F, 5), (0x2238, 5),
  (0x223E, 10), (0x2249, 3), (0x224D, 5), (0x2253, 13), (0x2262, 2), (0x2268, 6), (0x2270, 37),
  (0x2296, 3), (0x229A, 11), (0x22A6, 25), (0x22C0, 82), (0x2313, 333), (0x246A, 10),
  (0x249C, 100), (0x254C, 4), (0x2574, 13), (0x2590, 3), (0x2596, 10), (0x25A2, 16), (0x25B4, 8),
  (0x25BE, 8), (0x25C8, 3), (0x25CC, 2), (0x25D0, 18), (0x25E6, 31), (0x2607, 2), (0x260A, 54),
  (0x2641, 1), (0x2643, 2110), (0x2E82, 2), (0x2E85, 3), (0x2E89, 2), (0x2E8D, 10), (0x2E98, 15),
  (0x2EA8, 2), (0x2EAB, 3), (0x2EAF, 4), (0x2EB4, 2), (0x2EB8, 3), (0x2EBC, 14), (0x2ECB, 293),
  (0x2FFC, 4), (0x3004, 1), (0x3018, 5), (0x301F, 2), (0x302A, 20), (0x303F, 2), (0x3094, 7),
  (0x309F, 2), (0x30F7, 5), (0x30FF, 6), (0x312A, 246), (0x322A, 7), (0x3232, 113),
  (0x32A4, 234), (0x3390, 12), (0x339F, 2), (0x33A2, 34), (0x33C5, 9), (0x33CF, 2), (0x33D3, 2),
  (0x33D6, 113), (0x3448, 43), (0x3474, 298), (0x359F, 111), (0x360F, 11), (0x361B, 765),
  (0x3919, 85), (0x396F, 96), (0x39D1, 14), (0x39E0, 147), (0x3A74, 218), (0x3B4F, 287),
  (0x3C6F, 113), (0x3CE1, 885), (0x4057, 264), (0x4160, 471), (0x4338, 116), (0x43AD, 4),
  (0x43B2, 43), (0x43DE, 248), (0x44D7, 373), (0x464D, 20), (0x4662, 193), (0x4724, 5),
  (0x472A, 82), (0x477D, 16), (0x478E, 441), (0x4948, 50), (0x497B, 2), (0x497E, 4), (0x4984, 1),
  (0x4987, 20), (0x499C, 3), (0x49A0, 22), (0x49B8, 703), (0x4C78, 39), (0x4CA4, 111),
  (0x4D1A, 148), (0x4DAF, 81), (0x9FA6, 14426), (0xE76C, 1), (0xE7C8, 1), (0xE7E7, 13),
  (0xE815, 1), (0xE819, 5), (0xE81F, 7), (0xE827, 4), (0xE82D, 4), (0xE833, 8), (0xE83C, 7),
  (0xE844, 16), (0xE856, 14), (0xE865, 4295), (0xF92D, 76), (0xF97A, 27), (0xF996, 81),
  (0xF9E8, 9), (0xF9F2, 26), (0xFA10, 1), (0xFA12, 1), (0xFA15, 3), (0xFA19, 6), (0xFA22, 1),
  (0xFA25, 2), (0xFA2A, 1030), (0xFE32, 1), (0xFE45, 4), (0xFE53, 1), (0xFE58, 1), (0xFE67, 1),
  (0xFE6C, 149), (0xFF5F, 129), (0xFFE6, 26)]

end Charset
end Copybook
