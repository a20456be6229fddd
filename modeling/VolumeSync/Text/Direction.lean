import VolumeSync.Text.Mark

-- The direction in which characters are written, as the bidirectional
-- classes of Unicode 17 have it.

namespace VolumeSync.Text

set_option maxRecDepth 4000

/-! ## Directions -/

/-- The classes of characters by direction. -/
inductive Direction where
  | left
  | right
  | arabic
  | number
  | separator
  | terminator
  | arabicNumber
  | commonSeparator
  | mark
  | boundary
  | neutral
  /-- Ends of lines, blanks and what changes the direction by itself. -/
  | layout
  deriving DecidableEq, Repr

namespace Direction

/-- The directions of characters. Those in no range are marks if they
take no room of their own, and are written from the left if not. -/
def table : List (Nat × Nat × Direction) :=
  [(0x0, 0x8, .boundary), (0x9, 0xD, .layout), (0xE, 0x1B, .boundary), (0x1C, 0x20, .layout),
   (0x21, 0x22, .neutral), (0x23, 0x25, .terminator), (0x26, 0x2A, .neutral),
   (0x2B, 0x2B, .separator), (0x2C, 0x2C, .commonSeparator), (0x2D, 0x2D, .separator),
   (0x2E, 0x2F, .commonSeparator), (0x30, 0x39, .number), (0x3A, 0x3A, .commonSeparator),
   (0x3B, 0x40, .neutral), (0x5B, 0x60, .neutral), (0x7B, 0x7E, .neutral),
   (0x7F, 0x84, .boundary), (0x85, 0x85, .layout), (0x86, 0x9F, .boundary),
   (0xA0, 0xA0, .commonSeparator), (0xA1, 0xA1, .neutral), (0xA2, 0xA5, .terminator),
   (0xA6, 0xA9, .neutral), (0xAB, 0xAC, .neutral), (0xAD, 0xAD, .boundary),
   (0xAE, 0xAF, .neutral), (0xB0, 0xB1, .terminator), (0xB2, 0xB3, .number),
   (0xB4, 0xB4, .neutral), (0xB6, 0xB8, .neutral), (0xB9, 0xB9, .number), (0xBB, 0xBF, .neutral),
   (0xD7, 0xD7, .neutral), (0xF7, 0xF7, .neutral), (0x2B9, 0x2BA, .neutral),
   (0x2C2, 0x2CF, .neutral), (0x2D2, 0x2DF, .neutral), (0x2E5, 0x2ED, .neutral),
   (0x2EF, 0x2FF, .neutral), (0x374, 0x375, .neutral), (0x37E, 0x37E, .neutral),
   (0x384, 0x385, .neutral), (0x387, 0x387, .neutral), (0x3F6, 0x3F6, .neutral),
   (0x58A, 0x58E, .neutral), (0x58F, 0x58F, .terminator), (0x5BE, 0x5BE, .right),
   (0x5C0, 0x5C0, .right), (0x5C3, 0x5C3, .right), (0x5C6, 0x5C6, .right), (0x5D0, 0x5F4, .right),
   (0x600, 0x605, .arabicNumber), (0x606, 0x607, .neutral), (0x608, 0x608, .arabic),
   (0x609, 0x60A, .terminator), (0x60B, 0x60B, .arabic), (0x60C, 0x60C, .commonSeparator),
   (0x60D, 0x60D, .arabic), (0x60E, 0x60F, .neutral), (0x61B, 0x64A, .arabic),
   (0x660, 0x669, .arabicNumber), (0x66A, 0x66A, .terminator), (0x66B, 0x66C, .arabicNumber),
   (0x66D, 0x66F, .arabic), (0x671, 0x6D5, .arabic), (0x6DD, 0x6DD, .arabicNumber),
   (0x6DE, 0x6DE, .neutral), (0x6E5, 0x6E6, .arabic), (0x6E9, 0x6E9, .neutral),
   (0x6EE, 0x6EF, .arabic), (0x6F0, 0x6F9, .number), (0x6FA, 0x710, .arabic),
   (0x712, 0x72F, .arabic), (0x74D, 0x7A5, .arabic), (0x7B1, 0x7B1, .arabic),
   (0x7C0, 0x7EA, .right), (0x7F4, 0x7F5, .right), (0x7F6, 0x7F9, .neutral),
   (0x7FA, 0x7FA, .right), (0x7FE, 0x815, .right), (0x81A, 0x81A, .right), (0x824, 0x824, .right),
   (0x828, 0x828, .right), (0x830, 0x858, .right), (0x85E, 0x85E, .right),
   (0x860, 0x88F, .arabic), (0x890, 0x891, .arabicNumber), (0x8A0, 0x8C9, .arabic),
   (0x8E2, 0x8E2, .arabicNumber), (0x9F2, 0x9F3, .terminator), (0x9FB, 0x9FB, .terminator),
   (0xAF1, 0xAF1, .terminator), (0xBF3, 0xBF8, .neutral), (0xBF9, 0xBF9, .terminator),
   (0xBFA, 0xBFA, .neutral), (0xC78, 0xC7E, .neutral), (0xCBF, 0xCBF, .left),
   (0xCC6, 0xCC6, .left), (0xE3F, 0xE3F, .terminator), (0xF3A, 0xF3D, .neutral),
   (0x1390, 0x1399, .neutral), (0x1400, 0x1400, .neutral), (0x1680, 0x1680, .layout),
   (0x169B, 0x169C, .neutral), (0x17DB, 0x17DB, .terminator), (0x17F0, 0x180A, .neutral),
   (0x180E, 0x180E, .boundary), (0x1940, 0x1945, .neutral), (0x19DE, 0x19FF, .neutral),
   (0x1FBD, 0x1FBD, .neutral), (0x1FBF, 0x1FC1, .neutral), (0x1FCD, 0x1FCF, .neutral),
   (0x1FDD, 0x1FDF, .neutral), (0x1FED, 0x1FEF, .neutral), (0x1FFD, 0x1FFE, .neutral),
   (0x2000, 0x200A, .layout), (0x200B, 0x200D, .boundary), (0x200F, 0x200F, .right),
   (0x2010, 0x2027, .neutral), (0x2028, 0x202E, .layout), (0x202F, 0x202F, .commonSeparator),
   (0x2030, 0x2034, .terminator), (0x2035, 0x2043, .neutral), (0x2044, 0x2044, .commonSeparator),
   (0x2045, 0x205E, .neutral), (0x205F, 0x205F, .layout), (0x2060, 0x2064, .boundary),
   (0x2066, 0x2069, .layout), (0x206A, 0x206F, .boundary), (0x2070, 0x2070, .number),
   (0x2074, 0x2079, .number), (0x207A, 0x207B, .separator), (0x207C, 0x207E, .neutral),
   (0x2080, 0x2089, .number), (0x208A, 0x208B, .separator), (0x208C, 0x208E, .neutral),
   (0x20A0, 0x20C1, .terminator), (0x2100, 0x2101, .neutral), (0x2103, 0x2106, .neutral),
   (0x2108, 0x2109, .neutral), (0x2114, 0x2114, .neutral), (0x2116, 0x2118, .neutral),
   (0x211E, 0x2123, .neutral), (0x2125, 0x2125, .neutral), (0x2127, 0x2127, .neutral),
   (0x2129, 0x2129, .neutral), (0x212E, 0x212E, .terminator), (0x213A, 0x213B, .neutral),
   (0x2140, 0x2144, .neutral), (0x214A, 0x214D, .neutral), (0x2150, 0x215F, .neutral),
   (0x2189, 0x2211, .neutral), (0x2212, 0x2212, .separator), (0x2213, 0x2213, .terminator),
   (0x2214, 0x2335, .neutral), (0x237B, 0x2394, .neutral), (0x2396, 0x2487, .neutral),
   (0x2488, 0x249B, .number), (0x24EA, 0x26AB, .neutral), (0x26AD, 0x27FF, .neutral),
   (0x2900, 0x2BFF, .neutral), (0x2CE5, 0x2CEA, .neutral), (0x2CF9, 0x2CFF, .neutral),
   (0x2E00, 0x2FFF, .neutral), (0x3000, 0x3000, .layout), (0x3001, 0x3004, .neutral),
   (0x3008, 0x3020, .neutral), (0x3030, 0x3030, .neutral), (0x3036, 0x3037, .neutral),
   (0x303D, 0x303F, .neutral), (0x309B, 0x309C, .neutral), (0x30A0, 0x30A0, .neutral),
   (0x30FB, 0x30FB, .neutral), (0x31C0, 0x31EF, .neutral), (0x321D, 0x321E, .neutral),
   (0x3250, 0x325F, .neutral), (0x327C, 0x327E, .neutral), (0x32B1, 0x32BF, .neutral),
   (0x32CC, 0x32CF, .neutral), (0x3377, 0x337A, .neutral), (0x33DE, 0x33DF, .neutral),
   (0x33FF, 0x33FF, .neutral), (0x4DC0, 0x4DFF, .neutral), (0xA490, 0xA4C6, .neutral),
   (0xA60D, 0xA60F, .neutral), (0xA673, 0xA673, .neutral), (0xA67E, 0xA67F, .neutral),
   (0xA700, 0xA721, .neutral), (0xA788, 0xA788, .neutral), (0xA828, 0xA82B, .neutral),
   (0xA838, 0xA839, .terminator), (0xA874, 0xA877, .neutral), (0xAB6A, 0xAB6B, .neutral),
   (0xFB1D, 0xFB1D, .right), (0xFB1F, 0xFB28, .right), (0xFB29, 0xFB29, .separator),
   (0xFB2A, 0xFB4F, .right), (0xFB50, 0xFBC2, .arabic), (0xFBC3, 0xFBD2, .neutral),
   (0xFBD3, 0xFD3D, .arabic), (0xFD3E, 0xFD4F, .neutral), (0xFD50, 0xFD8F, .arabic),
   (0xFD90, 0xFD91, .neutral), (0xFD92, 0xFDC7, .arabic), (0xFDC8, 0xFDCF, .neutral),
   (0xFDF0, 0xFDFC, .arabic), (0xFDFD, 0xFDFF, .neutral), (0xFE10, 0xFE19, .neutral),
   (0xFE30, 0xFE4F, .neutral), (0xFE50, 0xFE50, .commonSeparator), (0xFE51, 0xFE51, .neutral),
   (0xFE52, 0xFE52, .commonSeparator), (0xFE54, 0xFE54, .neutral),
   (0xFE55, 0xFE55, .commonSeparator), (0xFE56, 0xFE5E, .neutral), (0xFE5F, 0xFE5F, .terminator),
   (0xFE60, 0xFE61, .neutral), (0xFE62, 0xFE63, .separator), (0xFE64, 0xFE68, .neutral),
   (0xFE69, 0xFE6A, .terminator), (0xFE6B, 0xFE6B, .neutral), (0xFE70, 0xFEFC, .arabic),
   (0xFEFF, 0xFEFF, .boundary), (0xFF01, 0xFF02, .neutral), (0xFF03, 0xFF05, .terminator),
   (0xFF06, 0xFF0A, .neutral), (0xFF0B, 0xFF0B, .separator), (0xFF0C, 0xFF0C, .commonSeparator),
   (0xFF0D, 0xFF0D, .separator), (0xFF0E, 0xFF0F, .commonSeparator), (0xFF10, 0xFF19, .number),
   (0xFF1A, 0xFF1A, .commonSeparator), (0xFF1B, 0xFF20, .neutral), (0xFF3B, 0xFF40, .neutral),
   (0xFF5B, 0xFF65, .neutral), (0xFFE0, 0xFFE1, .terminator), (0xFFE2, 0xFFE4, .neutral),
   (0xFFE5, 0xFFE6, .terminator), (0xFFE8, 0xFFFD, .neutral), (0x10101, 0x10101, .neutral),
   (0x10140, 0x1018C, .neutral), (0x10190, 0x101A0, .neutral), (0x102E1, 0x102FB, .number),
   (0x10800, 0x1091B, .right), (0x1091F, 0x1091F, .neutral), (0x10920, 0x10A00, .right),
   (0x10A10, 0x10A35, .right), (0x10A40, 0x10AE4, .right), (0x10AEB, 0x10B35, .right),
   (0x10B39, 0x10B3F, .neutral), (0x10B40, 0x10BAF, .right), (0x10C00, 0x10CFF, .right),
   (0x10D00, 0x10D23, .arabic), (0x10D30, 0x10D49, .arabicNumber), (0x10D4A, 0x10D65, .right),
   (0x10D6E, 0x10D6E, .neutral), (0x10D6F, 0x10D8F, .right), (0x10E60, 0x10E7E, .arabicNumber),
   (0x10E80, 0x10EA9, .right), (0x10EAD, 0x10EB1, .right), (0x10EC2, 0x10EC7, .arabic),
   (0x10ED0, 0x10ED8, .neutral), (0x10F00, 0x10F27, .right), (0x10F30, 0x10F45, .arabic),
   (0x10F51, 0x10F59, .arabic), (0x10F70, 0x10F81, .right), (0x10F86, 0x10FF6, .right),
   (0x11052, 0x11065, .neutral), (0x11660, 0x1166C, .neutral), (0x11A07, 0x11A08, .left),
   (0x11C3F, 0x11C3F, .left), (0x11FD5, 0x11FDC, .neutral), (0x11FDD, 0x11FE0, .terminator),
   (0x11FE1, 0x11FF1, .neutral), (0x16FE2, 0x16FE2, .neutral), (0x1BCA0, 0x1BCA3, .boundary),
   (0x1CC00, 0x1CCD5, .neutral), (0x1CCF0, 0x1CCF9, .number), (0x1CCFA, 0x1CEF0, .neutral),
   (0x1D173, 0x1D17A, .boundary), (0x1D1E9, 0x1D241, .neutral), (0x1D245, 0x1D245, .neutral),
   (0x1D300, 0x1D356, .neutral), (0x1D6C1, 0x1D6C1, .neutral), (0x1D6DB, 0x1D6DB, .neutral),
   (0x1D6FB, 0x1D6FB, .neutral), (0x1D715, 0x1D715, .neutral), (0x1D735, 0x1D735, .neutral),
   (0x1D74F, 0x1D74F, .neutral), (0x1D76F, 0x1D76F, .neutral), (0x1D789, 0x1D789, .neutral),
   (0x1D7A9, 0x1D7A9, .neutral), (0x1D7C3, 0x1D7C3, .neutral), (0x1D7CE, 0x1D7FF, .number),
   (0x1E2FF, 0x1E2FF, .terminator), (0x1E800, 0x1E8CF, .right), (0x1E900, 0x1E943, .right),
   (0x1E94B, 0x1E95F, .right), (0x1EC71, 0x1ECB4, .arabic), (0x1ED01, 0x1ED3D, .arabic),
   (0x1EE00, 0x1EEBB, .arabic), (0x1EEF0, 0x1EEF1, .neutral), (0x1F000, 0x1F0F5, .neutral),
   (0x1F100, 0x1F10A, .number), (0x1F10B, 0x1F10F, .neutral), (0x1F12F, 0x1F12F, .neutral),
   (0x1F16A, 0x1F16F, .neutral), (0x1F1AD, 0x1F1AD, .neutral), (0x1F260, 0x1F265, .neutral),
   (0x1F300, 0x1FBEF, .neutral), (0x1FBF0, 0x1FBF9, .number), (0x1FBFA, 0x1FBFA, .neutral),
   (0xE0001, 0xE007F, .boundary)]

/-- The direction of a character. -/
def ofChar (c : Char) : Direction :=
  match valueAt? table c.toNat with
  | some direction => direction
  | none => if isNonspacingMark c then .mark else .left

/-- The direction is that of letters written from the right, or of their
numbers. -/
def isRightward : Direction → Bool
  | .right => true
  | .arabic => true
  | .arabicNumber => true
  | _ => false

end Direction

/-- The character makes a text one that is written from the right. The
first of them is a Hebrew letter. -/
def isRightToLeft (c : Char) : Bool := 0x590 ≤ c.toNat && (Direction.ofChar c).isRightward

end VolumeSync.Text
