import ManifestLint.Text.Ranges

/-!
# Characters of host names

Tables of the characters that may stand in the labels of host names: by the direction in which they
are written, by how they join with their neighbours, and by script.  Of every two letter cases only
the small one is there.
-/

namespace ManifestLint.HostName

open ManifestLint.Text

/-- Runs of characters that are written from left to right and can start a label. -/
def leftLetters : List (Nat × Nat × Nat) := [
  (0x61, 0x7A, 1), (0xDF, 0xF6, 1), (0xF8, 0xFF, 1), (0x101, 0x131, 2), (0x135, 0x137, 2),
  (0x138, 0x13E, 2), (0x142, 0x148, 2), (0x14B, 0x177, 2), (0x17A, 0x180, 2), (0x183, 0x185, 2),
  (0x188, 0x18C, 4), (0x18D, 0x18D, 1), (0x192, 0x195, 3), (0x199, 0x19B, 1), (0x19E, 0x1A1, 3),
  (0x1A3, 0x1A5, 2), (0x1A8, 0x1AA, 2), (0x1AB, 0x1AD, 2), (0x1B0, 0x1B4, 4), (0x1B6, 0x1B9, 3),
  (0x1BA, 0x1BB, 1), (0x1BD, 0x1C3, 1), (0x1CE, 0x1DC, 2), (0x1DD, 0x1EF, 2), (0x1F0, 0x1F0, 1),
  (0x1F5, 0x1F9, 4), (0x1FB, 0x233, 2), (0x234, 0x239, 1), (0x23C, 0x23F, 3), (0x240, 0x242, 2),
  (0x247, 0x24F, 2), (0x250, 0x2AF, 1), (0x2BB, 0x2C1, 1), (0x2D0, 0x2D1, 1), (0x2EE, 0x2EE, 1),
  (0x371, 0x373, 2), (0x377, 0x37B, 4), (0x37C, 0x37D, 1), (0x390, 0x390, 1), (0x3AC, 0x3CE, 1),
  (0x3D7, 0x3EF, 2), (0x3F3, 0x3F3, 1), (0x3F8, 0x3FB, 3), (0x3FC, 0x3FC, 1), (0x430, 0x45F, 1),
  (0x461, 0x481, 2), (0x48B, 0x4BF, 2), (0x4C2, 0x4CE, 2), (0x4CF, 0x52F, 2), (0x559, 0x559, 1),
  (0x560, 0x586, 1), (0x588, 0x588, 1), (0x904, 0x939, 1), (0x93D, 0x93D, 1), (0x950, 0x950, 1),
  (0x960, 0x961, 1), (0x966, 0x96F, 1), (0x971, 0x980, 1), (0x985, 0x98C, 1), (0x98F, 0x990, 1),
  (0x993, 0x9A8, 1), (0x9AA, 0x9B0, 1), (0x9B2, 0x9B6, 4), (0x9B7, 0x9B9, 1), (0x9BD, 0x9BD, 1),
  (0x9CE, 0x9CE, 1), (0x9E0, 0x9E1, 1), (0x9E6, 0x9F1, 1), (0x9FC, 0x9FC, 1), (0xA05, 0xA0A, 1),
  (0xA0F, 0xA10, 1), (0xA13, 0xA28, 1), (0xA2A, 0xA30, 1), (0xA32, 0xA38, 3), (0xA39, 0xA39, 1),
  (0xA5C, 0xA5C, 1), (0xA66, 0xA6F, 1), (0xA72, 0xA74, 1), (0xA85, 0xA8D, 1), (0xA8F, 0xA91, 1),
  (0xA93, 0xAA8, 1), (0xAAA, 0xAB0, 1), (0xAB2, 0xAB3, 1), (0xAB5, 0xAB9, 1), (0xABD, 0xABD, 1),
  (0xAD0, 0xAD0, 1), (0xAE0, 0xAE1, 1), (0xAE6, 0xAEF, 1), (0xAF9, 0xAF9, 1), (0xB05, 0xB0C, 1),
  (0xB0F, 0xB10, 1), (0xB13, 0xB28, 1), (0xB2A, 0xB30, 1), (0xB32, 0xB33, 1), (0xB35, 0xB39, 1),
  (0xB3D, 0xB3D, 1), (0xB5F, 0xB61, 1), (0xB66, 0xB6F, 1), (0xB71, 0xB71, 1), (0xB83, 0xB85, 2),
  (0xB86, 0xB8A, 1), (0xB8E, 0xB90, 1), (0xB92, 0xB95, 1), (0xB99, 0xB9A, 1), (0xB9C, 0xB9E, 2),
  (0xB9F, 0xBA3, 4), (0xBA4, 0xBA8, 4), (0xBA9, 0xBAA, 1), (0xBAE, 0xBB9, 1), (0xBD0, 0xBD0, 1),
  (0xBE6, 0xBEF, 1), (0xC05, 0xC0C, 1), (0xC0E, 0xC10, 1), (0xC12, 0xC28, 1), (0xC2A, 0xC39, 1),
  (0xC3D, 0xC3D, 1), (0xC58, 0xC5A, 1), (0xC5D, 0xC60, 3), (0xC61, 0xC61, 1), (0xC66, 0xC6F, 1),
  (0xC80, 0xC80, 1), (0xC85, 0xC8C, 1), (0xC8E, 0xC90, 1), (0xC92, 0xCA8, 1), (0xCAA, 0xCB3, 1),
  (0xCB5, 0xCB9, 1), (0xCBD, 0xCBD, 1), (0xCDD, 0xCDE, 1), (0xCE0, 0xCE1, 1), (0xCE6, 0xCEF, 1),
  (0xCF1, 0xCF2, 1), (0xD04, 0xD0C, 1), (0xD0E, 0xD10, 1), (0xD12, 0xD3A, 1), (0xD3D, 0xD3D, 1),
  (0xD4E, 0xD4E, 1), (0xD54, 0xD56, 1), (0xD5F, 0xD61, 1), (0xD66, 0xD6F, 1), (0xD7A, 0xD7F, 1),
  (0xD85, 0xD96, 1), (0xD9A, 0xDB1, 1), (0xDB3, 0xDBB, 1), (0xDBD, 0xDC0, 3), (0xDC1, 0xDC6, 1),
  (0xDE6, 0xDEF, 1), (0xE01, 0xE30, 1), (0xE32, 0xE32, 1), (0xE40, 0xE46, 1), (0xE50, 0xE59, 1),
  (0xE81, 0xE82, 1), (0xE84, 0xE86, 2), (0xE87, 0xE8A, 1), (0xE8C, 0xEA3, 1), (0xEA5, 0xEA7, 2),
  (0xEA8, 0xEB0, 1), (0xEB2, 0xEB2, 1), (0xEBD, 0xEC0, 3), (0xEC1, 0xEC4, 1), (0xEC6, 0xEC6, 1),
  (0xED0, 0xED9, 1), (0xEDE, 0xEDF, 1), (0xF00, 0xF00, 1), (0xF0B, 0xF0B, 1), (0xF20, 0xF29, 1),
  (0xF40, 0xF42, 1), (0xF44, 0xF47, 1), (0xF49, 0xF4C, 1), (0xF4E, 0xF51, 1), (0xF53, 0xF56, 1),
  (0xF58, 0xF5B, 1), (0xF5D, 0xF68, 1), (0xF6A, 0xF6C, 1), (0xF88, 0xF8C, 1), (0x1000, 0x102A, 1),
  (0x103F, 0x1049, 1), (0x1050, 0x1055, 1), (0x105A, 0x105D, 1), (0x1061, 0x1065, 4),
  (0x1066, 0x1066, 1), (0x106E, 0x1070, 1), (0x1075, 0x1081, 1), (0x108E, 0x1090, 2),
  (0x1091, 0x1099, 1), (0x10D0, 0x10FA, 1), (0x10FD, 0x10FF, 1), (0x1200, 0x1248, 1),
  (0x124A, 0x124D, 1), (0x1250, 0x1256, 1), (0x1258, 0x125A, 2), (0x125B, 0x125D, 1),
  (0x1260, 0x1288, 1), (0x128A, 0x128D, 1), (0x1290, 0x12B0, 1), (0x12B2, 0x12B5, 1),
  (0x12B8, 0x12BE, 1), (0x12C0, 0x12C2, 2), (0x12C3, 0x12C5, 1), (0x12C8, 0x12D6, 1),
  (0x12D8, 0x1310, 1), (0x1312, 0x1315, 1), (0x1318, 0x135A, 1), (0x1380, 0x138F, 1),
  (0x13A0, 0x13F5, 1), (0x1401, 0x166C, 1), (0x166F, 0x167F, 1), (0x1681, 0x169A, 1),
  (0x16A0, 0x16EA, 1), (0x16F1, 0x16F8, 1), (0x1700, 0x1711, 1), (0x171F, 0x1731, 1),
  (0x1740, 0x1751, 1), (0x1760, 0x176C, 1), (0x176E, 0x1770, 1), (0x1780, 0x17B3, 1),
  (0x17D7, 0x17D7, 1), (0x17DC, 0x17E0, 4), (0x17E1, 0x17E9, 1), (0x1810, 0x1819, 1),
  (0x1820, 0x1878, 1), (0x1880, 0x1884, 1), (0x1887, 0x18A8, 1), (0x18AA, 0x18AA, 1),
  (0x18B0, 0x18F5, 1), (0x1900, 0x191E, 1), (0x1946, 0x196D, 1), (0x1970, 0x1974, 1),
  (0x1980, 0x19AB, 1), (0x19B0, 0x19C9, 1), (0x19D0, 0x19D9, 1), (0x1A00, 0x1A16, 1),
  (0x1A20, 0x1A54, 1), (0x1A80, 0x1A89, 1), (0x1A90, 0x1A99, 1), (0x1AA7, 0x1AA7, 1),
  (0x1B05, 0x1B33, 1), (0x1B45, 0x1B4C, 1), (0x1B50, 0x1B59, 1), (0x1B83, 0x1BA0, 1),
  (0x1BAE, 0x1BE5, 1), (0x1C00, 0x1C23, 1), (0x1C40, 0x1C49, 1), (0x1C4D, 0x1C7D, 1),
  (0x1CE9, 0x1CEC, 1), (0x1CEE, 0x1CF3, 1), (0x1CF5, 0x1CF6, 1), (0x1CFA, 0x1CFA, 1),
  (0x1D00, 0x1D2B, 1), (0x1D2F, 0x1D2F, 1), (0x1D3B, 0x1D3B, 1), (0x1D4E, 0x1D4E, 1),
  (0x1D6B, 0x1D77, 1), (0x1D79, 0x1D9A, 1), (0x1E01, 0x1E95, 2), (0x1E96, 0x1E99, 1),
  (0x1E9C, 0x1E9D, 1), (0x1E9F, 0x1EFF, 2), (0x1F00, 0x1F07, 1), (0x1F10, 0x1F15, 1),
  (0x1F20, 0x1F27, 1), (0x1F30, 0x1F37, 1), (0x1F40, 0x1F45, 1), (0x1F50, 0x1F57, 1),
  (0x1F60, 0x1F67, 1), (0x1F70, 0x1F7C, 2), (0x1FB0, 0x1FB1, 1), (0x1FB6, 0x1FB6, 1),
  (0x1FC6, 0x1FC6, 1), (0x1FD0, 0x1FD2, 1), (0x1FD6, 0x1FD7, 1), (0x1FE0, 0x1FE2, 1),
  (0x1FE4, 0x1FE7, 1), (0x1FF6, 0x1FF6, 1), (0x214E, 0x214E, 1), (0x2184, 0x2184, 1),
  (0x2C30, 0x2C5F, 1), (0x2C61, 0x2C65, 4), (0x2C66, 0x2C6C, 2), (0x2C71, 0x2C73, 2),
  (0x2C74, 0x2C76, 2), (0x2C77, 0x2C7B, 1), (0x2C81, 0x2CE3, 2), (0x2CE4, 0x2CE4, 1),
  (0x2CEC, 0x2CEE, 2), (0x2CF3, 0x2CF3, 1), (0x2D00, 0x2D25, 1), (0x2D27, 0x2D27, 1),
  (0x2D2D, 0x2D30, 3), (0x2D31, 0x2D67, 1), (0x2D80, 0x2D96, 1), (0x2DA0, 0x2DA6, 1),
  (0x2DA8, 0x2DAE, 1), (0x2DB0, 0x2DB6, 1), (0x2DB8, 0x2DBE, 1), (0x2DC0, 0x2DC6, 1),
  (0x2DC8, 0x2DCE, 1), (0x2DD0, 0x2DD6, 1), (0x2DD8, 0x2DDE, 1), (0x3005, 0x3007, 1),
  (0x303C, 0x303C, 1), (0x3041, 0x3096, 1), (0x309D, 0x309E, 1), (0x30A1, 0x30FA, 1),
  (0x30FC, 0x30FE, 1), (0x3105, 0x312F, 1), (0x31A0, 0x31BF, 1), (0x31F0, 0x31FF, 1),
  (0x3400, 0x4DBF, 1), (0x4E00, 0xA48C, 1), (0xA4D0, 0xA4FD, 1), (0xA500, 0xA60C, 1),
  (0xA610, 0xA62B, 1), (0xA641, 0xA66D, 2), (0xA66E, 0xA66E, 1), (0xA681, 0xA69B, 2),
  (0xA6A0, 0xA6E5, 1), (0xA723, 0xA72F, 2), (0xA730, 0xA731, 1), (0xA733, 0xA771, 2),
  (0xA772, 0xA778, 1), (0xA77A, 0xA77C, 2), (0xA77F, 0xA787, 2), (0xA78C, 0xA78E, 2),
  (0xA78F, 0xA793, 2), (0xA794, 0xA795, 1), (0xA797, 0xA7A9, 2), (0xA7AF, 0xA7AF, 1),
  (0xA7B5, 0xA7C3, 2), (0xA7C8, 0xA7CA, 2), (0xA7D1, 0xA7D9, 2), (0xA7F6, 0xA7F7, 1),
  (0xA7FA, 0xA801, 1), (0xA803, 0xA805, 1), (0xA807, 0xA80A, 1), (0xA80C, 0xA822, 1),
  (0xA840, 0xA873, 1), (0xA882, 0xA8B3, 1), (0xA8D0, 0xA8D9, 1), (0xA8F2, 0xA8F7, 1),
  (0xA8FB, 0xA8FD, 2), (0xA8FE, 0xA900, 2), (0xA901, 0xA925, 1), (0xA930, 0xA946, 1),
  (0xA984, 0xA9B2, 1), (0xA9CF, 0xA9D9, 1), (0xA9E0, 0xA9E4, 1), (0xA9E6, 0xA9FE, 1),
  (0xAA00, 0xAA28, 1), (0xAA40, 0xAA42, 1), (0xAA44, 0xAA4B, 1), (0xAA50, 0xAA59, 1),
  (0xAA60, 0xAA76, 1), (0xAA7A, 0xAA7E, 4), (0xAA7F, 0xAAAF, 1), (0xAAB1, 0xAAB5, 4),
  (0xAAB6, 0xAAB9, 3), (0xAABA, 0xAABD, 1), (0xAAC0, 0xAAC2, 2), (0xAADB, 0xAADD, 1),
  (0xAAE0, 0xAAEA, 1), (0xAAF2, 0xAAF4, 1), (0xAB01, 0xAB06, 1), (0xAB09, 0xAB0E, 1),
  (0xAB11, 0xAB16, 1), (0xAB20, 0xAB26, 1), (0xAB28, 0xAB2E, 1), (0xAB30, 0xAB5A, 1),
  (0xAB60, 0xAB68, 1), (0xABC0, 0xABE2, 1), (0xABF0, 0xABF9, 1), (0xAC00, 0xD7A3, 1),
  (0xFA0E, 0xFA0F, 1), (0xFA11, 0xFA13, 2), (0xFA14, 0xFA14, 1), (0xFA1F, 0xFA23, 2),
  (0xFA24, 0xFA27, 3), (0xFA28, 0xFA29, 1), (0x10000, 0x1000B, 1), (0x1000D, 0x10026, 1),
  (0x10028, 0x1003A, 1), (0x1003C, 0x1003D, 1), (0x1003F, 0x1004D, 1), (0x10050, 0x1005D, 1),
  (0x10080, 0x100FA, 1), (0x10280, 0x1029C, 1), (0x102A0, 0x102D0, 1), (0x10300, 0x1031F, 1),
  (0x1032D, 0x10340, 1), (0x10342, 0x10349, 1), (0x10350, 0x10375, 1), (0x10380, 0x1039D, 1),
  (0x103A0, 0x103C3, 1), (0x103C8, 0x103CF, 1), (0x10428, 0x1049D, 1), (0x104A0, 0x104A9, 1),
  (0x104D8, 0x104FB, 1), (0x10500, 0x10527, 1), (0x10530, 0x10563, 1), (0x10597, 0x105A1, 1),
  (0x105A3, 0x105B1, 1), (0x105B3, 0x105B9, 1), (0x105BB, 0x105BC, 1), (0x10600, 0x10736, 1),
  (0x10740, 0x10755, 1), (0x10760, 0x10767, 1), (0x10780, 0x10780, 1), (0x11003, 0x11037, 1),
  (0x11066, 0x1106F, 1), (0x11071, 0x11072, 1), (0x11075, 0x11075, 1), (0x11083, 0x110AF, 1),
  (0x110D0, 0x110E8, 1), (0x110F0, 0x110F9, 1), (0x11103, 0x11126, 1), (0x11136, 0x1113F, 1),
  (0x11144, 0x11147, 3), (0x11150, 0x11172, 1), (0x11176, 0x11176, 1), (0x11183, 0x111B2, 1),
  (0x111C1, 0x111C4, 1), (0x111D0, 0x111DA, 1), (0x111DC, 0x111DC, 1), (0x11200, 0x11211, 1),
  (0x11213, 0x1122B, 1), (0x11280, 0x11286, 1), (0x11288, 0x1128A, 2), (0x1128B, 0x1128D, 1),
  (0x1128F, 0x1129D, 1), (0x1129F, 0x112A8, 1), (0x112B0, 0x112DE, 1), (0x112F0, 0x112F9, 1),
  (0x11305, 0x1130C, 1), (0x1130F, 0x11310, 1), (0x11313, 0x11328, 1), (0x1132A, 0x11330, 1),
  (0x11332, 0x11333, 1), (0x11335, 0x11339, 1), (0x1133D, 0x1133D, 1), (0x11350, 0x11350, 1),
  (0x1135D, 0x11361, 1), (0x11400, 0x11434, 1), (0x11447, 0x1144A, 1), (0x11450, 0x11459, 1),
  (0x1145F, 0x11461, 1), (0x11480, 0x114AF, 1), (0x114C4, 0x114C5, 1), (0x114C7, 0x114C7, 1),
  (0x114D0, 0x114D9, 1), (0x11580, 0x115AE, 1), (0x115D8, 0x115DB, 1), (0x11600, 0x1162F, 1),
  (0x11644, 0x11644, 1), (0x11650, 0x11659, 1), (0x11680, 0x116AA, 1), (0x116B8, 0x116B8, 1),
  (0x116C0, 0x116C9, 1), (0x11700, 0x1171A, 1), (0x11730, 0x11739, 1), (0x11740, 0x11746, 1),
  (0x11800, 0x1182B, 1), (0x118C0, 0x118E9, 1), (0x118FF, 0x11906, 1), (0x11909, 0x1190C, 3),
  (0x1190D, 0x11913, 1), (0x11915, 0x11916, 1), (0x11918, 0x1192F, 1), (0x1193F, 0x11941, 2),
  (0x11950, 0x11959, 1), (0x119A0, 0x119A7, 1), (0x119AA, 0x119D0, 1), (0x119E1, 0x119E3, 2),
  (0x11A00, 0x11A00, 1), (0x11A0B, 0x11A32, 1), (0x11A3A, 0x11A3A, 1), (0x11A50, 0x11A50, 1),
  (0x11A5C, 0x11A89, 1), (0x11A9D, 0x11A9D, 1), (0x11AB0, 0x11AF8, 1), (0x11C00, 0x11C08, 1),
  (0x11C0A, 0x11C2E, 1), (0x11C40, 0x11C40, 1), (0x11C50, 0x11C59, 1), (0x11C72, 0x11C8F, 1),
  (0x11D00, 0x11D06, 1), (0x11D08, 0x11D09, 1), (0x11D0B, 0x11D30, 1), (0x11D46, 0x11D46, 1),
  (0x11D50, 0x11D59, 1), (0x11D60, 0x11D65, 1), (0x11D67, 0x11D68, 1), (0x11D6A, 0x11D89, 1),
  (0x11D98, 0x11D98, 1), (0x11DA0, 0x11DA9, 1), (0x11EE0, 0x11EF2, 1), (0x11FB0, 0x11FB0, 1),
  (0x12000, 0x12399, 1), (0x12480, 0x12543, 1), (0x12F90, 0x12FF0, 1), (0x13000, 0x1342E, 1),
  (0x14400, 0x14646, 1), (0x16800, 0x16A38, 1), (0x16A40, 0x16A5E, 1), (0x16A60, 0x16A69, 1),
  (0x16A70, 0x16ABE, 1), (0x16AC0, 0x16AC9, 1), (0x16AD0, 0x16AED, 1), (0x16B00, 0x16B2F, 1),
  (0x16B40, 0x16B43, 1), (0x16B50, 0x16B59, 1), (0x16B63, 0x16B77, 1), (0x16B7D, 0x16B8F, 1),
  (0x16E60, 0x16E7F, 1), (0x16F00, 0x16F4A, 1), (0x16F50, 0x16F50, 1), (0x16F93, 0x16F9F, 1),
  (0x16FE0, 0x16FE1, 1), (0x16FE3, 0x16FE3, 1), (0x17000, 0x187F7, 1), (0x18800, 0x18CD5, 1),
  (0x18D00, 0x18D08, 1), (0x1AFF0, 0x1AFF3, 1), (0x1AFF5, 0x1AFFB, 1), (0x1AFFD, 0x1AFFE, 1),
  (0x1B000, 0x1B122, 1), (0x1B150, 0x1B152, 1), (0x1B164, 0x1B167, 1), (0x1B170, 0x1B2FB, 1),
  (0x1BC00, 0x1BC6A, 1), (0x1BC70, 0x1BC7C, 1), (0x1BC80, 0x1BC88, 1), (0x1BC90, 0x1BC99, 1),
  (0x1DF00, 0x1DF1E, 1), (0x1E100, 0x1E12C, 1), (0x1E137, 0x1E13D, 1), (0x1E140, 0x1E149, 1),
  (0x1E14E, 0x1E14E, 1), (0x1E290, 0x1E2AD, 1), (0x1E2C0, 0x1E2EB, 1), (0x1E2F0, 0x1E2F9, 1),
  (0x1E7E0, 0x1E7E6, 1), (0x1E7E8, 0x1E7EB, 1), (0x1E7ED, 0x1E7EE, 1), (0x1E7F0, 0x1E7FE, 1),
  (0x20000, 0x2A6DF, 1), (0x2A700, 0x2B738, 1), (0x2B740, 0x2B81D, 1), (0x2B820, 0x2CEA1, 1),
  (0x2CEB0, 0x2EBE0, 1), (0x30000, 0x3134A, 1)]

/-- Runs of marks that take room of their own; they are written from left to right. -/
def leftMarks : List (Nat × Nat × Nat) := [
  (0x903, 0x903, 1), (0x93B, 0x93E, 3), (0x93F, 0x940, 1), (0x949, 0x94C, 1), (0x94E, 0x94F, 1),
  (0x982, 0x983, 1), (0x9BE, 0x9C0, 1), (0x9C7, 0x9C8, 1), (0x9CB, 0x9CC, 1), (0x9D7, 0x9D7, 1),
  (0xA03, 0xA03, 1), (0xA3E, 0xA40, 1), (0xA83, 0xA83, 1), (0xABE, 0xAC0, 1), (0xAC9, 0xACB, 2),
  (0xACC, 0xACC, 1), (0xB02, 0xB03, 1), (0xB3E, 0xB40, 2), (0xB47, 0xB48, 1), (0xB4B, 0xB4C, 1),
  (0xB57, 0xB57, 1), (0xBBE, 0xBBF, 1), (0xBC1, 0xBC2, 1), (0xBC6, 0xBC8, 1), (0xBCA, 0xBCC, 1),
  (0xBD7, 0xBD7, 1), (0xC01, 0xC03, 1), (0xC41, 0xC44, 1), (0xC82, 0xC83, 1), (0xCBE, 0xCC4, 1),
  (0xCC6, 0xCC8, 1), (0xCCA, 0xCCB, 1), (0xCD5, 0xCD6, 1), (0xD02, 0xD03, 1), (0xD3E, 0xD40, 1),
  (0xD46, 0xD48, 1), (0xD4A, 0xD4C, 1), (0xD57, 0xD57, 1), (0xD82, 0xD83, 1), (0xDCF, 0xDD1, 1),
  (0xDD8, 0xDDF, 1), (0xDF2, 0xDF3, 1), (0xF3E, 0xF3F, 1), (0xF7F, 0xF7F, 1), (0x102B, 0x102C, 1),
  (0x1031, 0x1031, 1), (0x1038, 0x103B, 3), (0x103C, 0x103C, 1), (0x1056, 0x1057, 1),
  (0x1062, 0x1064, 1), (0x1067, 0x106D, 1), (0x1083, 0x1084, 1), (0x1087, 0x108C, 1),
  (0x108F, 0x108F, 1), (0x109A, 0x109C, 1), (0x1715, 0x1715, 1), (0x1734, 0x1734, 1),
  (0x17B6, 0x17B6, 1), (0x17BE, 0x17C5, 1), (0x17C7, 0x17C8, 1), (0x1923, 0x1926, 1),
  (0x1929, 0x192B, 1), (0x1930, 0x1931, 1), (0x1933, 0x1938, 1), (0x1A19, 0x1A1A, 1),
  (0x1A55, 0x1A57, 2), (0x1A61, 0x1A63, 2), (0x1A64, 0x1A64, 1), (0x1A6D, 0x1A72, 1),
  (0x1B04, 0x1B04, 1), (0x1B35, 0x1B35, 1), (0x1B3B, 0x1B3D, 2), (0x1B3E, 0x1B41, 1),
  (0x1B43, 0x1B44, 1), (0x1B82, 0x1B82, 1), (0x1BA1, 0x1BA1, 1), (0x1BA6, 0x1BA7, 1),
  (0x1BAA, 0x1BAA, 1), (0x1BE7, 0x1BEA, 3), (0x1BEB, 0x1BEC, 1), (0x1BEE, 0x1BF2, 4),
  (0x1BF3, 0x1BF3, 1), (0x1C24, 0x1C2B, 1), (0x1C34, 0x1C35, 1), (0x1CE1, 0x1CE1, 1),
  (0x1CF7, 0x1CF7, 1), (0xA823, 0xA824, 1), (0xA827, 0xA827, 1), (0xA880, 0xA881, 1),
  (0xA8B4, 0xA8C3, 1), (0xA952, 0xA953, 1), (0xA983, 0xA983, 1), (0xA9B4, 0xA9B5, 1),
  (0xA9BA, 0xA9BB, 1), (0xA9BE, 0xA9C0, 1), (0xAA2F, 0xAA30, 1), (0xAA33, 0xAA34, 1),
  (0xAA4D, 0xAA4D, 1), (0xAA7B, 0xAA7D, 2), (0xAAEB, 0xAAEE, 3), (0xAAEF, 0xAAEF, 1),
  (0xAAF5, 0xAAF5, 1), (0xABE3, 0xABE4, 1), (0xABE6, 0xABE7, 1), (0xABE9, 0xABEA, 1),
  (0xABEC, 0xABEC, 1), (0x11000, 0x11002, 2), (0x11082, 0x11082, 1), (0x110B0, 0x110B2, 1),
  (0x110B7, 0x110B8, 1), (0x1112C, 0x1112C, 1), (0x11145, 0x11146, 1), (0x11182, 0x11182, 1),
  (0x111B3, 0x111B5, 1), (0x111BF, 0x111C0, 1), (0x111CE, 0x111CE, 1), (0x1122C, 0x1122E, 1),
  (0x11232, 0x11233, 1), (0x11235, 0x11235, 1), (0x112E0, 0x112E2, 1), (0x11302, 0x11303, 1),
  (0x1133E, 0x1133F, 1), (0x11341, 0x11344, 1), (0x11347, 0x11348, 1), (0x1134B, 0x1134D, 1),
  (0x11357, 0x11357, 1), (0x11362, 0x11363, 1), (0x11435, 0x11437, 1), (0x11440, 0x11441, 1),
  (0x11445, 0x11445, 1), (0x114B0, 0x114B2, 1), (0x114B9, 0x114BB, 2), (0x114BC, 0x114BE, 1),
  (0x114C1, 0x114C1, 1), (0x115AF, 0x115B1, 1), (0x115B8, 0x115BB, 1), (0x115BE, 0x115BE, 1),
  (0x11630, 0x11632, 1), (0x1163B, 0x1163C, 1), (0x1163E, 0x1163E, 1), (0x116AC, 0x116AE, 2),
  (0x116AF, 0x116AF, 1), (0x116B6, 0x116B6, 1), (0x11720, 0x11721, 1), (0x11726, 0x11726, 1),
  (0x1182C, 0x1182E, 1), (0x11838, 0x11838, 1), (0x11930, 0x11935, 1), (0x11937, 0x11938, 1),
  (0x1193D, 0x11940, 3), (0x11942, 0x11942, 1), (0x119D1, 0x119D3, 1), (0x119DC, 0x119DF, 1),
  (0x119E4, 0x119E4, 1), (0x11A07, 0x11A08, 1), (0x11A39, 0x11A39, 1), (0x11A57, 0x11A58, 1),
  (0x11A97, 0x11A97, 1), (0x11C2F, 0x11C2F, 1), (0x11C3E, 0x11C3F, 1), (0x11CA9, 0x11CA9, 1),
  (0x11CB1, 0x11CB4, 3), (0x11D8A, 0x11D8E, 1), (0x11D93, 0x11D94, 1), (0x11D96, 0x11D96, 1),
  (0x11EF5, 0x11EF6, 1), (0x16F51, 0x16F87, 1), (0x16FF0, 0x16FF1, 1)]

/-- Runs of characters that are written from right to left. -/
def rightLetters : List (Nat × Nat × Nat) := [
  (0x5D0, 0x5EA, 1), (0x5EF, 0x5F4, 1), (0x620, 0x63F, 1), (0x641, 0x64A, 1), (0x66E, 0x66F, 1),
  (0x671, 0x674, 1), (0x679, 0x6D3, 1), (0x6D5, 0x6D5, 1), (0x6E5, 0x6E6, 1), (0x6EE, 0x6EF, 1),
  (0x6FA, 0x6FF, 1), (0x710, 0x712, 2), (0x713, 0x72F, 1), (0x74D, 0x7A5, 1), (0x7B1, 0x7B1, 1),
  (0x7C0, 0x7EA, 1), (0x7F4, 0x7F5, 1), (0x800, 0x815, 1), (0x81A, 0x81A, 1), (0x824, 0x828, 4),
  (0x840, 0x858, 1), (0x860, 0x86A, 1), (0x870, 0x887, 1), (0x889, 0x88E, 1), (0x8A0, 0x8C9, 1),
  (0xFE73, 0xFE73, 1), (0x10800, 0x10805, 1), (0x10808, 0x1080A, 2), (0x1080B, 0x10835, 1),
  (0x10837, 0x10838, 1), (0x1083C, 0x1083F, 3), (0x10840, 0x10855, 1), (0x10860, 0x10876, 1),
  (0x10880, 0x1089E, 1), (0x108E0, 0x108F2, 1), (0x108F4, 0x108F5, 1), (0x10900, 0x10915, 1),
  (0x10920, 0x10939, 1), (0x10980, 0x109B7, 1), (0x109BE, 0x109BF, 1), (0x10A00, 0x10A00, 1),
  (0x10A10, 0x10A13, 1), (0x10A15, 0x10A17, 1), (0x10A19, 0x10A35, 1), (0x10A60, 0x10A7C, 1),
  (0x10A80, 0x10A9C, 1), (0x10AC0, 0x10AC7, 1), (0x10AC9, 0x10AE4, 1), (0x10B00, 0x10B35, 1),
  (0x10B40, 0x10B55, 1), (0x10B60, 0x10B72, 1), (0x10B80, 0x10B91, 1), (0x10C00, 0x10C48, 1),
  (0x10CC0, 0x10CF2, 1), (0x10D00, 0x10D23, 1), (0x10E80, 0x10EA9, 1), (0x10EB0, 0x10EB1, 1),
  (0x10F00, 0x10F1C, 1), (0x10F27, 0x10F27, 1), (0x10F30, 0x10F45, 1), (0x10F70, 0x10F81, 1),
  (0x10FB0, 0x10FC4, 1), (0x10FE0, 0x10FF6, 1), (0x1E800, 0x1E8C4, 1), (0x1E922, 0x1E943, 1),
  (0x1E94B, 0x1E94B, 1), (0x1E950, 0x1E959, 1)]

/-- Runs of marks that are written above, below or around other characters. -/
def marks : List (Nat × Nat × Nat) := [
  (0x300, 0x33F, 1), (0x342, 0x346, 4), (0x347, 0x34E, 1), (0x350, 0x36F, 1), (0x483, 0x487, 1),
  (0x591, 0x5BD, 1), (0x5BF, 0x5C1, 2), (0x5C2, 0x5C4, 2), (0x5C5, 0x5C7, 2), (0x610, 0x61A, 1),
  (0x64B, 0x65F, 1), (0x670, 0x670, 1), (0x6D6, 0x6DC, 1), (0x6DF, 0x6E4, 1), (0x6E7, 0x6E8, 1),
  (0x6EA, 0x6ED, 1), (0x711, 0x711, 1), (0x730, 0x74A, 1), (0x7A6, 0x7B0, 1), (0x7EB, 0x7F3, 1),
  (0x7FD, 0x7FD, 1), (0x816, 0x819, 1), (0x81B, 0x823, 1), (0x825, 0x827, 1), (0x829, 0x82D, 1),
  (0x859, 0x85B, 1), (0x898, 0x89F, 1), (0x8CA, 0x8E1, 1), (0x8E3, 0x902, 1), (0x93A, 0x93C, 2),
  (0x941, 0x948, 1), (0x94D, 0x951, 4), (0x952, 0x957, 1), (0x962, 0x963, 1), (0x981, 0x981, 1),
  (0x9BC, 0x9BC, 1), (0x9C1, 0x9C4, 1), (0x9CD, 0x9CD, 1), (0x9E2, 0x9E3, 1), (0x9FE, 0xA01, 3),
  (0xA02, 0xA02, 1), (0xA3C, 0xA3C, 1), (0xA41, 0xA42, 1), (0xA47, 0xA48, 1), (0xA4B, 0xA4D, 1),
  (0xA51, 0xA51, 1), (0xA70, 0xA71, 1), (0xA75, 0xA75, 1), (0xA81, 0xA82, 1), (0xABC, 0xABC, 1),
  (0xAC1, 0xAC5, 1), (0xAC7, 0xAC8, 1), (0xACD, 0xACD, 1), (0xAE2, 0xAE3, 1), (0xAFA, 0xAFF, 1),
  (0xB01, 0xB01, 1), (0xB3C, 0xB3F, 3), (0xB41, 0xB44, 1), (0xB4D, 0xB4D, 1), (0xB55, 0xB56, 1),
  (0xB62, 0xB63, 1), (0xB82, 0xB82, 1), (0xBC0, 0xBC0, 1), (0xBCD, 0xBCD, 1), (0xC00, 0xC04, 4),
  (0xC3C, 0xC3E, 2), (0xC3F, 0xC40, 1), (0xC46, 0xC48, 1), (0xC4A, 0xC4D, 1), (0xC55, 0xC56, 1),
  (0xC62, 0xC63, 1), (0xC81, 0xC81, 1), (0xCBC, 0xCBC, 1), (0xCCC, 0xCCD, 1), (0xCE2, 0xCE3, 1),
  (0xD00, 0xD01, 1), (0xD3B, 0xD3C, 1), (0xD41, 0xD44, 1), (0xD4D, 0xD4D, 1), (0xD62, 0xD63, 1),
  (0xD81, 0xD81, 1), (0xDCA, 0xDCA, 1), (0xDD2, 0xDD4, 1), (0xDD6, 0xDD6, 1), (0xE31, 0xE34, 3),
  (0xE35, 0xE3A, 1), (0xE47, 0xE4E, 1), (0xEB1, 0xEB4, 3), (0xEB5, 0xEBC, 1), (0xEC8, 0xECD, 1),
  (0xF18, 0xF19, 1), (0xF35, 0xF39, 2), (0xF71, 0xF72, 1), (0xF74, 0xF74, 1), (0xF7A, 0xF7E, 1),
  (0xF80, 0xF82, 2), (0xF83, 0xF84, 1), (0xF86, 0xF87, 1), (0xF8D, 0xF92, 1), (0xF94, 0xF97, 1),
  (0xF99, 0xF9C, 1), (0xF9E, 0xFA1, 1), (0xFA3, 0xFA6, 1), (0xFA8, 0xFAB, 1), (0xFAD, 0xFB8, 1),
  (0xFBA, 0xFBC, 1), (0xFC6, 0xFC6, 1), (0x102D, 0x1030, 1), (0x1032, 0x1037, 1),
  (0x1039, 0x103A, 1), (0x103D, 0x103E, 1), (0x1058, 0x1059, 1), (0x105E, 0x1060, 1),
  (0x1071, 0x1074, 1), (0x1082, 0x1085, 3), (0x1086, 0x1086, 1), (0x108D, 0x108D, 1),
  (0x109D, 0x109D, 1), (0x135D, 0x135F, 1), (0x1712, 0x1714, 1), (0x1732, 0x1733, 1),
  (0x1752, 0x1753, 1), (0x1772, 0x1773, 1), (0x17B7, 0x17BD, 1), (0x17C6, 0x17C9, 3),
  (0x17CA, 0x17D3, 1), (0x17DD, 0x17DD, 1), (0x1885, 0x1886, 1), (0x18A9, 0x18A9, 1),
  (0x1920, 0x1922, 1), (0x1927, 0x1928, 1), (0x1932, 0x1932, 1), (0x1939, 0x193B, 1),
  (0x1A17, 0x1A18, 1), (0x1A1B, 0x1A1B, 1), (0x1A56, 0x1A58, 2), (0x1A59, 0x1A5E, 1),
  (0x1A60, 0x1A62, 2), (0x1A65, 0x1A6C, 1), (0x1A73, 0x1A7C, 1), (0x1A7F, 0x1A7F, 1),
  (0x1AB0, 0x1ABD, 1), (0x1ABF, 0x1ACE, 1), (0x1B00, 0x1B03, 1), (0x1B34, 0x1B36, 2),
  (0x1B37, 0x1B3A, 1), (0x1B3C, 0x1B3C, 1), (0x1B42, 0x1B42, 1), (0x1B6B, 0x1B73, 1),
  (0x1B80, 0x1B81, 1), (0x1BA2, 0x1BA5, 1), (0x1BA8, 0x1BA9, 1), (0x1BAB, 0x1BAD, 1),
  (0x1BE6, 0x1BE8, 2), (0x1BE9, 0x1BED, 4), (0x1BEF, 0x1BF1, 1), (0x1C2C, 0x1C33, 1),
  (0x1C36, 0x1C37, 1), (0x1CD0, 0x1CD2, 1), (0x1CD4, 0x1CE0, 1), (0x1CE2, 0x1CE8, 1),
  (0x1CED, 0x1CED, 1), (0x1CF4, 0x1CF8, 4), (0x1CF9, 0x1CF9, 1), (0x1DC0, 0x1DFF, 1),
  (0x2CEF, 0x2CF1, 1), (0x2D7F, 0x2D7F, 1), (0x2DE0, 0x2DFF, 1), (0x302A, 0x302D, 1),
  (0x3099, 0x309A, 1), (0xA66F, 0xA66F, 1), (0xA674, 0xA67D, 1), (0xA69E, 0xA69F, 1),
  (0xA6F0, 0xA6F1, 1), (0xA802, 0xA806, 4), (0xA80B, 0xA80B, 1), (0xA825, 0xA826, 1),
  (0xA82C, 0xA82C, 1), (0xA8C4, 0xA8C5, 1), (0xA8E0, 0xA8F1, 1), (0xA8FF, 0xA8FF, 1),
  (0xA926, 0xA92D, 1), (0xA947, 0xA951, 1), (0xA980, 0xA982, 1), (0xA9B3, 0xA9B6, 3),
  (0xA9B7, 0xA9B9, 1), (0xA9BC, 0xA9BD, 1), (0xA9E5, 0xA9E5, 1), (0xAA29, 0xAA2E, 1),
  (0xAA31, 0xAA32, 1), (0xAA35, 0xAA36, 1), (0xAA43, 0xAA43, 1), (0xAA4C, 0xAA4C, 1),
  (0xAA7C, 0xAA7C, 1), (0xAAB0, 0xAAB2, 2), (0xAAB3, 0xAAB4, 1), (0xAAB7, 0xAAB8, 1),
  (0xAABE, 0xAABF, 1), (0xAAC1, 0xAAC1, 1), (0xAAEC, 0xAAED, 1), (0xAAF6, 0xAAF6, 1),
  (0xABE5, 0xABE8, 3), (0xABED, 0xABED, 1), (0xFB1E, 0xFB1E, 1), (0xFE20, 0xFE2F, 1),
  (0x101FD, 0x101FD, 1), (0x102E0, 0x102E0, 1), (0x10376, 0x1037A, 1), (0x10A01, 0x10A03, 1),
  (0x10A05, 0x10A06, 1), (0x10A0C, 0x10A0F, 1), (0x10A38, 0x10A3A, 1), (0x10A3F, 0x10A3F, 1),
  (0x10AE5, 0x10AE6, 1), (0x10D24, 0x10D27, 1), (0x10EAB, 0x10EAC, 1), (0x10F46, 0x10F50, 1),
  (0x10F82, 0x10F85, 1), (0x11001, 0x11001, 1), (0x11038, 0x11046, 1), (0x11070, 0x11073, 3),
  (0x11074, 0x11074, 1), (0x1107F, 0x11081, 1), (0x110B3, 0x110B6, 1), (0x110B9, 0x110BA, 1),
  (0x110C2, 0x110C2, 1), (0x11100, 0x11102, 1), (0x11127, 0x1112B, 1), (0x1112D, 0x11134, 1),
  (0x11173, 0x11173, 1), (0x11180, 0x11181, 1), (0x111B6, 0x111BE, 1), (0x111C9, 0x111CC, 1),
  (0x111CF, 0x111CF, 1), (0x1122F, 0x11231, 1), (0x11234, 0x11236, 2), (0x11237, 0x11237, 1),
  (0x1123E, 0x1123E, 1), (0x112DF, 0x112E3, 4), (0x112E4, 0x112EA, 1), (0x11300, 0x11301, 1),
  (0x1133B, 0x1133C, 1), (0x11340, 0x11340, 1), (0x11366, 0x1136C, 1), (0x11370, 0x11374, 1),
  (0x11438, 0x1143F, 1), (0x11442, 0x11444, 1), (0x11446, 0x11446, 1), (0x1145E, 0x1145E, 1),
  (0x114B3, 0x114B8, 1), (0x114BA, 0x114BA, 1), (0x114BF, 0x114C0, 1), (0x114C2, 0x114C3, 1),
  (0x115B2, 0x115B5, 1), (0x115BC, 0x115BD, 1), (0x115BF, 0x115C0, 1), (0x115DC, 0x115DD, 1),
  (0x11633, 0x1163A, 1), (0x1163D, 0x1163F, 2), (0x11640, 0x11640, 1), (0x116AB, 0x116AD, 2),
  (0x116B0, 0x116B5, 1), (0x116B7, 0x116B7, 1), (0x1171D, 0x1171F, 1), (0x11722, 0x11725, 1),
  (0x11727, 0x1172B, 1), (0x1182F, 0x11837, 1), (0x11839, 0x1183A, 1), (0x1193B, 0x1193C, 1),
  (0x1193E, 0x1193E, 1), (0x11943, 0x11943, 1), (0x119D4, 0x119D7, 1), (0x119DA, 0x119DB, 1),
  (0x119E0, 0x119E0, 1), (0x11A01, 0x11A06, 1), (0x11A09, 0x11A0A, 1), (0x11A33, 0x11A38, 1),
  (0x11A3B, 0x11A3E, 1), (0x11A47, 0x11A47, 1), (0x11A51, 0x11A56, 1), (0x11A59, 0x11A5B, 1),
  (0x11A8A, 0x11A96, 1), (0x11A98, 0x11A99, 1), (0x11C30, 0x11C36, 1), (0x11C38, 0x11C3D, 1),
  (0x11C92, 0x11CA7, 1), (0x11CAA, 0x11CB0, 1), (0x11CB2, 0x11CB3, 1), (0x11CB5, 0x11CB6, 1),
  (0x11D31, 0x11D36, 1), (0x11D3A, 0x11D3C, 2), (0x11D3D, 0x11D3F, 2), (0x11D40, 0x11D45, 1),
  (0x11D47, 0x11D47, 1), (0x11D90, 0x11D91, 1), (0x11D95, 0x11D97, 2), (0x11EF3, 0x11EF4, 1),
  (0x16AF0, 0x16AF4, 1), (0x16B30, 0x16B36, 1), (0x16F4F, 0x16F4F, 1), (0x16F8F, 0x16F92, 1),
  (0x16FE4, 0x16FE4, 1), (0x1BC9D, 0x1BC9E, 1), (0x1CF00, 0x1CF2D, 1), (0x1CF30, 0x1CF46, 1),
  (0x1DA00, 0x1DA36, 1), (0x1DA3B, 0x1DA6C, 1), (0x1DA75, 0x1DA75, 1), (0x1DA84, 0x1DA84, 1),
  (0x1DA9B, 0x1DA9F, 1), (0x1DAA1, 0x1DAAF, 1), (0x1E000, 0x1E006, 1), (0x1E008, 0x1E018, 1),
  (0x1E01B, 0x1E021, 1), (0x1E023, 0x1E024, 1), (0x1E026, 0x1E02A, 1), (0x1E130, 0x1E136, 1),
  (0x1E2AE, 0x1E2AE, 1), (0x1E2EC, 0x1E2EF, 1), (0x1E8D0, 0x1E8D6, 1), (0x1E944, 0x1E94A, 1)]

/-- Characters other than the hyphen that are written in either direction. -/
def neutrals : List (Nat × Nat) := [
  (0xB7, 0xB7), (0x2B9, 0x2BA), (0x2C6, 0x2CF), (0x2EC, 0x2EC), (0x375, 0x375), (0x2E2F, 0x2E2F),
  (0x30FB, 0x30FB), (0xA67F, 0xA67F), (0xA717, 0xA71F), (0xA788, 0xA788)]

/-- Characters that join with their neighbours on both sides. -/
def joinsBoth : List (Nat × Nat) := [
  (0x620, 0x620), (0x626, 0x626), (0x628, 0x628), (0x62A, 0x62E), (0x633, 0x63F), (0x641, 0x647),
  (0x649, 0x64A), (0x66E, 0x66F), (0x679, 0x687), (0x69A, 0x6BF), (0x6C1, 0x6C2), (0x6CC, 0x6CC),
  (0x6CE, 0x6CE), (0x6D0, 0x6D1), (0x6FA, 0x6FC), (0x6FF, 0x6FF), (0x712, 0x714), (0x71A, 0x71D),
  (0x71F, 0x727), (0x729, 0x729), (0x72B, 0x72B), (0x72D, 0x72E), (0x74E, 0x758), (0x75C, 0x76A),
  (0x76D, 0x770), (0x772, 0x772), (0x775, 0x777), (0x77A, 0x77F), (0x7CA, 0x7EA), (0x841, 0x845),
  (0x848, 0x848), (0x84A, 0x853), (0x855, 0x855), (0x860, 0x860), (0x862, 0x865), (0x868, 0x868),
  (0x886, 0x886), (0x889, 0x88D), (0x8A0, 0x8A9), (0x8AF, 0x8B0), (0x8B3, 0x8B8), (0x8BA, 0x8C8),
  (0x1820, 0x1878), (0x1887, 0x18A8), (0x18AA, 0x18AA), (0xA840, 0xA871), (0x10AC0, 0x10AC4),
  (0x10AD3, 0x10AD6), (0x10AD8, 0x10ADC), (0x10ADE, 0x10AE0), (0x10B80, 0x10B80),
  (0x10B82, 0x10B82), (0x10B86, 0x10B88), (0x10B8A, 0x10B8B), (0x10B8D, 0x10B8D),
  (0x10B90, 0x10B90), (0x10D01, 0x10D21), (0x10D23, 0x10D23), (0x10F30, 0x10F32),
  (0x10F34, 0x10F44), (0x10F70, 0x10F73), (0x10F76, 0x10F81), (0x10FB0, 0x10FB0),
  (0x10FB2, 0x10FB3), (0x10FB8, 0x10FB8), (0x10FBB, 0x10FBC), (0x10FBE, 0x10FBF),
  (0x10FC1, 0x10FC1), (0x10FC4, 0x10FC4), (0x1E922, 0x1E943)]

/-- Characters that join with the neighbour before them alone. -/
def joinsBefore : List (Nat × Nat) := [
  (0x622, 0x625), (0x627, 0x627), (0x629, 0x629), (0x62F, 0x632), (0x648, 0x648), (0x671, 0x673),
  (0x688, 0x699), (0x6C0, 0x6C0), (0x6C3, 0x6CB), (0x6CD, 0x6CD), (0x6CF, 0x6CF), (0x6D2, 0x6D3),
  (0x6D5, 0x6D5), (0x6EE, 0x6EF), (0x710, 0x710), (0x715, 0x719), (0x71E, 0x71E), (0x728, 0x728),
  (0x72A, 0x72A), (0x72C, 0x72C), (0x72F, 0x72F), (0x74D, 0x74D), (0x759, 0x75B), (0x76B, 0x76C),
  (0x771, 0x771), (0x773, 0x774), (0x778, 0x779), (0x840, 0x840), (0x846, 0x847), (0x849, 0x849),
  (0x854, 0x854), (0x856, 0x858), (0x867, 0x867), (0x869, 0x86A), (0x870, 0x882), (0x88E, 0x88E),
  (0x8AA, 0x8AC), (0x8AE, 0x8AE), (0x8B1, 0x8B2), (0x8B9, 0x8B9), (0x10AC5, 0x10AC5),
  (0x10AC7, 0x10AC7), (0x10AC9, 0x10ACA), (0x10ACE, 0x10AD2), (0x10ADD, 0x10ADD),
  (0x10AE1, 0x10AE1), (0x10AE4, 0x10AE4), (0x10B81, 0x10B81), (0x10B83, 0x10B85),
  (0x10B89, 0x10B89), (0x10B8C, 0x10B8C), (0x10B8E, 0x10B8F), (0x10B91, 0x10B91),
  (0x10D22, 0x10D22), (0x10F33, 0x10F33), (0x10F74, 0x10F75), (0x10FB4, 0x10FB6),
  (0x10FB9, 0x10FBA), (0x10FBD, 0x10FBD), (0x10FC2, 0x10FC3)]

/-- Characters that join with the neighbour behind them alone. -/
def joinsBehind : List (Nat × Nat) := [
  (0xA872, 0xA872), (0x10ACD, 0x10ACD), (0x10AD7, 0x10AD7), (0x10D00, 0x10D00)]

/-- Characters beside the marks that let their neighbours join across them. -/
def otherTransparent : List (Nat × Nat) := [
  (0xCBF, 0xCBF), (0xCC6, 0xCC6), (0x11A07, 0x11A08), (0x11C3F, 0x11C3F), (0x1E94B, 0x1E94B)]

/-- Characters of the Greek script. -/
def greek : List (Nat × Nat) := [
  (0x371, 0x371), (0x373, 0x373), (0x375, 0x375), (0x377, 0x377), (0x37B, 0x37D), (0x390, 0x390),
  (0x3AC, 0x3CE), (0x3D7, 0x3D7), (0x3D9, 0x3D9), (0x3DB, 0x3DB), (0x3DD, 0x3DD), (0x3DF, 0x3DF),
  (0x3E1, 0x3E1), (0x3F3, 0x3F3), (0x3F8, 0x3F8), (0x3FB, 0x3FC), (0x1D26, 0x1D2A),
  (0x1F00, 0x1F07), (0x1F10, 0x1F15), (0x1F20, 0x1F27), (0x1F30, 0x1F37), (0x1F40, 0x1F45),
  (0x1F50, 0x1F57), (0x1F60, 0x1F67), (0x1F70, 0x1F70), (0x1F72, 0x1F72), (0x1F74, 0x1F74),
  (0x1F76, 0x1F76), (0x1F78, 0x1F78), (0x1F7A, 0x1F7A), (0x1F7C, 0x1F7C), (0x1FB0, 0x1FB1),
  (0x1FB6, 0x1FB6), (0x1FC6, 0x1FC6), (0x1FD0, 0x1FD2), (0x1FD6, 0x1FD7), (0x1FE0, 0x1FE2),
  (0x1FE4, 0x1FE7), (0x1FF6, 0x1FF6), (0xAB65, 0xAB65)]

/-- Characters of the Hebrew script. -/
def hebrew : List (Nat × Nat) := [
  (0x591, 0x5BD), (0x5BF, 0x5BF), (0x5C1, 0x5C2), (0x5C4, 0x5C5), (0x5C7, 0x5C7), (0x5D0, 0x5EA),
  (0x5EF, 0x5F4), (0xFB1E, 0xFB1E)]

/-- Characters of the scripts between which a middle dot may stand. -/
def japanese : List (Nat × Nat) := [
  (0x3005, 0x3005), (0x3007, 0x3007), (0x3041, 0x3096), (0x309D, 0x309E), (0x30A1, 0x30FA),
  (0x30FD, 0x30FE), (0x31F0, 0x31FF), (0x3400, 0x4DBF), (0x4E00, 0x9FFF), (0xFA0E, 0xFA0F),
  (0xFA11, 0xFA11), (0xFA13, 0xFA14), (0xFA1F, 0xFA1F), (0xFA21, 0xFA21), (0xFA23, 0xFA24),
  (0xFA27, 0xFA29), (0x16FE3, 0x16FE3), (0x16FF0, 0x16FF1), (0x1AFF0, 0x1AFF3), (0x1AFF5, 0x1AFFB),
  (0x1AFFD, 0x1AFFE), (0x1B000, 0x1B122), (0x1B150, 0x1B152), (0x1B164, 0x1B167),
  (0x20000, 0x2A6DF), (0x2A700, 0x2B738), (0x2B740, 0x2B81D), (0x2B820, 0x2CEA1),
  (0x2CEB0, 0x2EBE0), (0x30000, 0x3134A)]

end ManifestLint.HostName
