/-!
# General categories

The general category that Unicode gives to every code point, as a table of runs. A run reaches from
its first code point to the first one of the next run.
-/

namespace CommandLink

/-- The general categories, under the two letters that Unicode abbreviates them to. -/
inductive Category where
  /-- Upper-case letter. -/
  | lu
  /-- Lower-case letter. -/
  | ll
  /-- Title-case letter. -/
  | lt
  /-- Modifier letter. -/
  | lm
  /-- Other letter. -/
  | lo
  /-- Non-spacing mark. -/
  | mn
  /-- Spacing mark. -/
  | mc
  /-- Enclosing mark. -/
  | me
  /-- Decimal number. -/
  | nd
  /-- Letter number. -/
  | nl
  /-- Other number. -/
  | no
  /-- Connector punctuation. -/
  | pc
  /-- Dash punctuation. -/
  | pd
  /-- Open punctuation. -/
  | ps
  /-- Close punctuation. -/
  | pe
  /-- Initial punctuation. -/
  | pi
  /-- Final punctuation. -/
  | pf
  /-- Other punctuation. -/
  | po
  /-- Mathematical symbol. -/
  | sm
  /-- Currency symbol. -/
  | sc
  /-- Modifier symbol. -/
  | sk
  /-- Other symbol. -/
  | so
  /-- Space separator. -/
  | zs
  /-- Line separator. -/
  | zl
  /-- Paragraph separator. -/
  | zp
  /-- Control. -/
  | cc
  /-- Format. -/
  | cf
  /-- Surrogate. -/
  | cs
  /-- Private use. -/
  | co
  /-- Unassigned. -/
  | cn
deriving DecidableEq, Repr

namespace Category

/-- What a run of code points consists of: one category throughout, or letters of
both cases in turn. -/
inductive Run where
  /-- One category throughout. -/
  | only (category : Category)
  /-- An upper-case letter first, then both cases in turn. -/
  | pairs
deriving DecidableEq, Repr

/-- The runs from U+0000 to U+0481. -/
def runsFrom0000To0481 : List (Nat × Run) := [
  (0x0, .only .cc), (0x20, .only .zs), (0x21, .only .po), (0x24, .only .sc), (0x25, .only .po),
  (0x28, .only .ps), (0x29, .only .pe), (0x2A, .only .po), (0x2B, .only .sm), (0x2C, .only .po),
  (0x2D, .only .pd), (0x2E, .only .po), (0x30, .only .nd), (0x3A, .only .po), (0x3C, .only .sm),
  (0x3F, .only .po), (0x41, .only .lu), (0x5B, .only .ps), (0x5C, .only .po), (0x5D, .only .pe),
  (0x5E, .only .sk), (0x5F, .only .pc), (0x60, .only .sk), (0x61, .only .ll), (0x7B, .only .ps),
  (0x7C, .only .sm), (0x7D, .only .pe), (0x7E, .only .sm), (0x7F, .only .cc), (0xA0, .only .zs),
  (0xA1, .only .po), (0xA2, .only .sc), (0xA6, .only .so), (0xA7, .only .po), (0xA8, .only .sk),
  (0xA9, .only .so), (0xAA, .only .lo), (0xAB, .only .pi), (0xAC, .only .sm), (0xAD, .only .cf),
  (0xAE, .only .so), (0xAF, .only .sk), (0xB0, .only .so), (0xB1, .only .sm), (0xB2, .only .no),
  (0xB4, .only .sk), (0xB5, .only .ll), (0xB6, .only .po), (0xB8, .only .sk), (0xB9, .only .no),
  (0xBA, .only .lo), (0xBB, .only .pf), (0xBC, .only .no), (0xBF, .only .po), (0xC0, .only .lu),
  (0xD7, .only .sm), (0xD8, .only .lu), (0xDF, .only .ll), (0xF7, .only .sm), (0xF8, .only .ll),
  (0x100, .pairs), (0x136, .only .lu), (0x137, .only .ll), (0x139, .pairs), (0x147, .only .lu),
  (0x148, .only .ll), (0x14A, .pairs), (0x178, .only .lu), (0x17A, .only .ll),
  (0x17B, .only .lu), (0x17C, .only .ll), (0x17D, .only .lu), (0x17E, .only .ll),
  (0x181, .only .lu), (0x183, .only .ll), (0x184, .only .lu), (0x185, .only .ll),
  (0x186, .only .lu), (0x188, .only .ll), (0x189, .only .lu), (0x18C, .only .ll),
  (0x18E, .only .lu), (0x192, .only .ll), (0x193, .only .lu), (0x195, .only .ll),
  (0x196, .only .lu), (0x199, .only .ll), (0x19C, .only .lu), (0x19E, .only .ll),
  (0x19F, .only .lu), (0x1A1, .only .ll), (0x1A2, .pairs), (0x1A6, .only .lu),
  (0x1A8, .only .ll), (0x1A9, .only .lu), (0x1AA, .only .ll), (0x1AC, .only .lu),
  (0x1AD, .only .ll), (0x1AE, .only .lu), (0x1B0, .only .ll), (0x1B1, .only .lu),
  (0x1B4, .only .ll), (0x1B5, .only .lu), (0x1B6, .only .ll), (0x1B7, .only .lu),
  (0x1B9, .only .ll), (0x1BB, .only .lo), (0x1BC, .only .lu), (0x1BD, .only .ll),
  (0x1C0, .only .lo), (0x1C4, .only .lu), (0x1C5, .only .lt), (0x1C6, .only .ll),
  (0x1C7, .only .lu), (0x1C8, .only .lt), (0x1C9, .only .ll), (0x1CA, .only .lu),
  (0x1CB, .only .lt), (0x1CC, .only .ll), (0x1CD, .pairs), (0x1DB, .only .lu),
  (0x1DC, .only .ll), (0x1DE, .pairs), (0x1EE, .only .lu), (0x1EF, .only .ll),
  (0x1F1, .only .lu), (0x1F2, .only .lt), (0x1F3, .only .ll), (0x1F4, .only .lu),
  (0x1F5, .only .ll), (0x1F6, .only .lu), (0x1F9, .only .ll), (0x1FA, .pairs),
  (0x232, .only .lu), (0x233, .only .ll), (0x23A, .only .lu), (0x23C, .only .ll),
  (0x23D, .only .lu), (0x23F, .only .ll), (0x241, .only .lu), (0x242, .only .ll),
  (0x243, .only .lu), (0x247, .only .ll), (0x248, .pairs), (0x24E, .only .lu),
  (0x24F, .only .ll), (0x294, .only .lo), (0x296, .only .ll), (0x2B0, .only .lm),
  (0x2C2, .only .sk), (0x2C6, .only .lm), (0x2D2, .only .sk), (0x2E0, .only .lm),
  (0x2E5, .only .sk), (0x2EC, .only .lm), (0x2ED, .only .sk), (0x2EE, .only .lm),
  (0x2EF, .only .sk), (0x300, .only .mn), (0x370, .pairs), (0x374, .only .lm),
  (0x375, .only .sk), (0x376, .only .lu), (0x377, .only .ll), (0x378, .only .cn),
  (0x37A, .only .lm), (0x37B, .only .ll), (0x37E, .only .po), (0x37F, .only .lu),
  (0x380, .only .cn), (0x384, .only .sk), (0x386, .only .lu), (0x387, .only .po),
  (0x388, .only .lu), (0x38B, .only .cn), (0x38C, .only .lu), (0x38D, .only .cn),
  (0x38E, .only .lu), (0x390, .only .ll), (0x391, .only .lu), (0x3A2, .only .cn),
  (0x3A3, .only .lu), (0x3AC, .only .ll), (0x3CF, .only .lu), (0x3D0, .only .ll),
  (0x3D2, .only .lu), (0x3D5, .only .ll), (0x3D8, .pairs), (0x3EE, .only .lu),
  (0x3EF, .only .ll), (0x3F4, .only .lu), (0x3F5, .only .ll), (0x3F6, .only .sm),
  (0x3F7, .only .lu), (0x3F8, .only .ll), (0x3F9, .only .lu), (0x3FB, .only .ll),
  (0x3FD, .only .lu), (0x430, .only .ll), (0x460, .pairs)]

/-- The runs from U+0482 to U+0A37. -/
def runsFrom0482To0A37 : List (Nat × Run) := [
  (0x482, .only .so), (0x483, .only .mn), (0x488, .only .me), (0x48A, .pairs),
  (0x4C0, .only .lu), (0x4C2, .only .ll), (0x4C3, .pairs), (0x4CD, .only .lu),
  (0x4CE, .only .ll), (0x4D0, .pairs), (0x530, .only .cn), (0x531, .only .lu),
  (0x557, .only .cn), (0x559, .only .lm), (0x55A, .only .po), (0x560, .only .ll),
  (0x589, .only .po), (0x58A, .only .pd), (0x58B, .only .cn), (0x58D, .only .so),
  (0x58F, .only .sc), (0x590, .only .cn), (0x591, .only .mn), (0x5BE, .only .pd),
  (0x5BF, .only .mn), (0x5C0, .only .po), (0x5C1, .only .mn), (0x5C3, .only .po),
  (0x5C4, .only .mn), (0x5C6, .only .po), (0x5C7, .only .mn), (0x5C8, .only .cn),
  (0x5D0, .only .lo), (0x5EB, .only .cn), (0x5EF, .only .lo), (0x5F3, .only .po),
  (0x5F5, .only .cn), (0x600, .only .cf), (0x606, .only .sm), (0x609, .only .po),
  (0x60B, .only .sc), (0x60C, .only .po), (0x60E, .only .so), (0x610, .only .mn),
  (0x61B, .only .po), (0x61C, .only .cf), (0x61D, .only .po), (0x620, .only .lo),
  (0x640, .only .lm), (0x641, .only .lo), (0x64B, .only .mn), (0x660, .only .nd),
  (0x66A, .only .po), (0x66E, .only .lo), (0x670, .only .mn), (0x671, .only .lo),
  (0x6D4, .only .po), (0x6D5, .only .lo), (0x6D6, .only .mn), (0x6DD, .only .cf),
  (0x6DE, .only .so), (0x6DF, .only .mn), (0x6E5, .only .lm), (0x6E7, .only .mn),
  (0x6E9, .only .so), (0x6EA, .only .mn), (0x6EE, .only .lo), (0x6F0, .only .nd),
  (0x6FA, .only .lo), (0x6FD, .only .so), (0x6FF, .only .lo), (0x700, .only .po),
  (0x70E, .only .cn), (0x70F, .only .cf), (0x710, .only .lo), (0x711, .only .mn),
  (0x712, .only .lo), (0x730, .only .mn), (0x74B, .only .cn), (0x74D, .only .lo),
  (0x7A6, .only .mn), (0x7B1, .only .lo), (0x7B2, .only .cn), (0x7C0, .only .nd),
  (0x7CA, .only .lo), (0x7EB, .only .mn), (0x7F4, .only .lm), (0x7F6, .only .so),
  (0x7F7, .only .po), (0x7FA, .only .lm), (0x7FB, .only .cn), (0x7FD, .only .mn),
  (0x7FE, .only .sc), (0x800, .only .lo), (0x816, .only .mn), (0x81A, .only .lm),
  (0x81B, .only .mn), (0x824, .only .lm), (0x825, .only .mn), (0x828, .only .lm),
  (0x829, .only .mn), (0x82E, .only .cn), (0x830, .only .po), (0x83F, .only .cn),
  (0x840, .only .lo), (0x859, .only .mn), (0x85C, .only .cn), (0x85E, .only .po),
  (0x85F, .only .cn), (0x860, .only .lo), (0x86B, .only .cn), (0x870, .only .lo),
  (0x888, .only .sk), (0x889, .only .lo), (0x890, .only .cf), (0x892, .only .cn),
  (0x897, .only .mn), (0x8A0, .only .lo), (0x8C9, .only .lm), (0x8CA, .only .mn),
  (0x8E2, .only .cf), (0x8E3, .only .mn), (0x903, .only .mc), (0x904, .only .lo),
  (0x93A, .only .mn), (0x93B, .only .mc), (0x93C, .only .mn), (0x93D, .only .lo),
  (0x93E, .only .mc), (0x941, .only .mn), (0x949, .only .mc), (0x94D, .only .mn),
  (0x94E, .only .mc), (0x950, .only .lo), (0x951, .only .mn), (0x958, .only .lo),
  (0x962, .only .mn), (0x964, .only .po), (0x966, .only .nd), (0x970, .only .po),
  (0x971, .only .lm), (0x972, .only .lo), (0x981, .only .mn), (0x982, .only .mc),
  (0x984, .only .cn), (0x985, .only .lo), (0x98D, .only .cn), (0x98F, .only .lo),
  (0x991, .only .cn), (0x993, .only .lo), (0x9A9, .only .cn), (0x9AA, .only .lo),
  (0x9B1, .only .cn), (0x9B2, .only .lo), (0x9B3, .only .cn), (0x9B6, .only .lo),
  (0x9BA, .only .cn), (0x9BC, .only .mn), (0x9BD, .only .lo), (0x9BE, .only .mc),
  (0x9C1, .only .mn), (0x9C5, .only .cn), (0x9C7, .only .mc), (0x9C9, .only .cn),
  (0x9CB, .only .mc), (0x9CD, .only .mn), (0x9CE, .only .lo), (0x9CF, .only .cn),
  (0x9D7, .only .mc), (0x9D8, .only .cn), (0x9DC, .only .lo), (0x9DE, .only .cn),
  (0x9DF, .only .lo), (0x9E2, .only .mn), (0x9E4, .only .cn), (0x9E6, .only .nd),
  (0x9F0, .only .lo), (0x9F2, .only .sc), (0x9F4, .only .no), (0x9FA, .only .so),
  (0x9FB, .only .sc), (0x9FC, .only .lo), (0x9FD, .only .po), (0x9FE, .only .mn),
  (0x9FF, .only .cn), (0xA01, .only .mn), (0xA03, .only .mc), (0xA04, .only .cn),
  (0xA05, .only .lo), (0xA0B, .only .cn), (0xA0F, .only .lo), (0xA11, .only .cn),
  (0xA13, .only .lo), (0xA29, .only .cn), (0xA2A, .only .lo), (0xA31, .only .cn),
  (0xA32, .only .lo), (0xA34, .only .cn), (0xA35, .only .lo), (0xA37, .only .cn)]

/-- The runs from U+0A38 to U+0CCD. -/
def runsFrom0A38To0CCD : List (Nat × Run) := [
  (0xA38, .only .lo), (0xA3A, .only .cn), (0xA3C, .only .mn), (0xA3D, .only .cn),
  (0xA3E, .only .mc), (0xA41, .only .mn), (0xA43, .only .cn), (0xA47, .only .mn),
  (0xA49, .only .cn), (0xA4B, .only .mn), (0xA4E, .only .cn), (0xA51, .only .mn),
  (0xA52, .only .cn), (0xA59, .only .lo), (0xA5D, .only .cn), (0xA5E, .only .lo),
  (0xA5F, .only .cn), (0xA66, .only .nd), (0xA70, .only .mn), (0xA72, .only .lo),
  (0xA75, .only .mn), (0xA76, .only .po), (0xA77, .only .cn), (0xA81, .only .mn),
  (0xA83, .only .mc), (0xA84, .only .cn), (0xA85, .only .lo), (0xA8E, .only .cn),
  (0xA8F, .only .lo), (0xA92, .only .cn), (0xA93, .only .lo), (0xAA9, .only .cn),
  (0xAAA, .only .lo), (0xAB1, .only .cn), (0xAB2, .only .lo), (0xAB4, .only .cn),
  (0xAB5, .only .lo), (0xABA, .only .cn), (0xABC, .only .mn), (0xABD, .only .lo),
  (0xABE, .only .mc), (0xAC1, .only .mn), (0xAC6, .only .cn), (0xAC7, .only .mn),
  (0xAC9, .only .mc), (0xACA, .only .cn), (0xACB, .only .mc), (0xACD, .only .mn),
  (0xACE, .only .cn), (0xAD0, .only .lo), (0xAD1, .only .cn), (0xAE0, .only .lo),
  (0xAE2, .only .mn), (0xAE4, .only .cn), (0xAE6, .only .nd), (0xAF0, .only .po),
  (0xAF1, .only .sc), (0xAF2, .only .cn), (0xAF9, .only .lo), (0xAFA, .only .mn),
  (0xB00, .only .cn), (0xB01, .only .mn), (0xB02, .only .mc), (0xB04, .only .cn),
  (0xB05, .only .lo), (0xB0D, .only .cn), (0xB0F, .only .lo), (0xB11, .only .cn),
  (0xB13, .only .lo), (0xB29, .only .cn), (0xB2A, .only .lo), (0xB31, .only .cn),
  (0xB32, .only .lo), (0xB34, .only .cn), (0xB35, .only .lo), (0xB3A, .only .cn),
  (0xB3C, .only .mn), (0xB3D, .only .lo), (0xB3E, .only .mc), (0xB3F, .only .mn),
  (0xB40, .only .mc), (0xB41, .only .mn), (0xB45, .only .cn), (0xB47, .only .mc),
  (0xB49, .only .cn), (0xB4B, .only .mc), (0xB4D, .only .mn), (0xB4E, .only .cn),
  (0xB55, .only .mn), (0xB57, .only .mc), (0xB58, .only .cn), (0xB5C, .only .lo),
  (0xB5E, .only .cn), (0xB5F, .only .lo), (0xB62, .only .mn), (0xB64, .only .cn),
  (0xB66, .only .nd), (0xB70, .only .so), (0xB71, .only .lo), (0xB72, .only .no),
  (0xB78, .only .cn), (0xB82, .only .mn), (0xB83, .only .lo), (0xB84, .only .cn),
  (0xB85, .only .lo), (0xB8B, .only .cn), (0xB8E, .only .lo), (0xB91, .only .cn),
  (0xB92, .only .lo), (0xB96, .only .cn), (0xB99, .only .lo), (0xB9B, .only .cn),
  (0xB9C, .only .lo), (0xB9D, .only .cn), (0xB9E, .only .lo), (0xBA0, .only .cn),
  (0xBA3, .only .lo), (0xBA5, .only .cn), (0xBA8, .only .lo), (0xBAB, .only .cn),
  (0xBAE, .only .lo), (0xBBA, .only .cn), (0xBBE, .only .mc), (0xBC0, .only .mn),
  (0xBC1, .only .mc), (0xBC3, .only .cn), (0xBC6, .only .mc), (0xBC9, .only .cn),
  (0xBCA, .only .mc), (0xBCD, .only .mn), (0xBCE, .only .cn), (0xBD0, .only .lo),
  (0xBD1, .only .cn), (0xBD7, .only .mc), (0xBD8, .only .cn), (0xBE6, .only .nd),
  (0xBF0, .only .no), (0xBF3, .only .so), (0xBF9, .only .sc), (0xBFA, .only .so),
  (0xBFB, .only .cn), (0xC00, .only .mn), (0xC01, .only .mc), (0xC04, .only .mn),
  (0xC05, .only .lo), (0xC0D, .only .cn), (0xC0E, .only .lo), (0xC11, .only .cn),
  (0xC12, .only .lo), (0xC29, .only .cn), (0xC2A, .only .lo), (0xC3A, .only .cn),
  (0xC3C, .only .mn), (0xC3D, .only .lo), (0xC3E, .only .mn), (0xC41, .only .mc),
  (0xC45, .only .cn), (0xC46, .only .mn), (0xC49, .only .cn), (0xC4A, .only .mn),
  (0xC4E, .only .cn), (0xC55, .only .mn), (0xC57, .only .cn), (0xC58, .only .lo),
  (0xC5B, .only .cn), (0xC5C, .only .lo), (0xC5E, .only .cn), (0xC60, .only .lo),
  (0xC62, .only .mn), (0xC64, .only .cn), (0xC66, .only .nd), (0xC70, .only .cn),
  (0xC77, .only .po), (0xC78, .only .no), (0xC7F, .only .so), (0xC80, .only .lo),
  (0xC81, .only .mn), (0xC82, .only .mc), (0xC84, .only .po), (0xC85, .only .lo),
  (0xC8D, .only .cn), (0xC8E, .only .lo), (0xC91, .only .cn), (0xC92, .only .lo),
  (0xCA9, .only .cn), (0xCAA, .only .lo), (0xCB4, .only .cn), (0xCB5, .only .lo),
  (0xCBA, .only .cn), (0xCBC, .only .mn), (0xCBD, .only .lo), (0xCBE, .only .mc),
  (0xCBF, .only .mn), (0xCC0, .only .mc), (0xCC5, .only .cn), (0xCC6, .only .mn),
  (0xCC7, .only .mc), (0xCC9, .only .cn), (0xCCA, .only .mc), (0xCCC, .only .mn)]

/-- The runs from U+0CCE to U+1249. -/
def runsFrom0CCETo1249 : List (Nat × Run) := [
  (0xCCE, .only .cn), (0xCD5, .only .mc), (0xCD7, .only .cn), (0xCDC, .only .lo),
  (0xCDF, .only .cn), (0xCE0, .only .lo), (0xCE2, .only .mn), (0xCE4, .only .cn),
  (0xCE6, .only .nd), (0xCF0, .only .cn), (0xCF1, .only .lo), (0xCF3, .only .mc),
  (0xCF4, .only .cn), (0xD00, .only .mn), (0xD02, .only .mc), (0xD04, .only .lo),
  (0xD0D, .only .cn), (0xD0E, .only .lo), (0xD11, .only .cn), (0xD12, .only .lo),
  (0xD3B, .only .mn), (0xD3D, .only .lo), (0xD3E, .only .mc), (0xD41, .only .mn),
  (0xD45, .only .cn), (0xD46, .only .mc), (0xD49, .only .cn), (0xD4A, .only .mc),
  (0xD4D, .only .mn), (0xD4E, .only .lo), (0xD4F, .only .so), (0xD50, .only .cn),
  (0xD54, .only .lo), (0xD57, .only .mc), (0xD58, .only .no), (0xD5F, .only .lo),
  (0xD62, .only .mn), (0xD64, .only .cn), (0xD66, .only .nd), (0xD70, .only .no),
  (0xD79, .only .so), (0xD7A, .only .lo), (0xD80, .only .cn), (0xD81, .only .mn),
  (0xD82, .only .mc), (0xD84, .only .cn), (0xD85, .only .lo), (0xD97, .only .cn),
  (0xD9A, .only .lo), (0xDB2, .only .cn), (0xDB3, .only .lo), (0xDBC, .only .cn),
  (0xDBD, .only .lo), (0xDBE, .only .cn), (0xDC0, .only .lo), (0xDC7, .only .cn),
  (0xDCA, .only .mn), (0xDCB, .only .cn), (0xDCF, .only .mc), (0xDD2, .only .mn),
  (0xDD5, .only .cn), (0xDD6, .only .mn), (0xDD7, .only .cn), (0xDD8, .only .mc),
  (0xDE0, .only .cn), (0xDE6, .only .nd), (0xDF0, .only .cn), (0xDF2, .only .mc),
  (0xDF4, .only .po), (0xDF5, .only .cn), (0xE01, .only .lo), (0xE31, .only .mn),
  (0xE32, .only .lo), (0xE34, .only .mn), (0xE3B, .only .cn), (0xE3F, .only .sc),
  (0xE40, .only .lo), (0xE46, .only .lm), (0xE47, .only .mn), (0xE4F, .only .po),
  (0xE50, .only .nd), (0xE5A, .only .po), (0xE5C, .only .cn), (0xE81, .only .lo),
  (0xE83, .only .cn), (0xE84, .only .lo), (0xE85, .only .cn), (0xE86, .only .lo),
  (0xE8B, .only .cn), (0xE8C, .only .lo), (0xEA4, .only .cn), (0xEA5, .only .lo),
  (0xEA6, .only .cn), (0xEA7, .only .lo), (0xEB1, .only .mn), (0xEB2, .only .lo),
  (0xEB4, .only .mn), (0xEBD, .only .lo), (0xEBE, .only .cn), (0xEC0, .only .lo),
  (0xEC5, .only .cn), (0xEC6, .only .lm), (0xEC7, .only .cn), (0xEC8, .only .mn),
  (0xECF, .only .cn), (0xED0, .only .nd), (0xEDA, .only .cn), (0xEDC, .only .lo),
  (0xEE0, .only .cn), (0xF00, .only .lo), (0xF01, .only .so), (0xF04, .only .po),
  (0xF13, .only .so), (0xF14, .only .po), (0xF15, .only .so), (0xF18, .only .mn),
  (0xF1A, .only .so), (0xF20, .only .nd), (0xF2A, .only .no), (0xF34, .only .so),
  (0xF35, .only .mn), (0xF36, .only .so), (0xF37, .only .mn), (0xF38, .only .so),
  (0xF39, .only .mn), (0xF3A, .only .ps), (0xF3B, .only .pe), (0xF3C, .only .ps),
  (0xF3D, .only .pe), (0xF3E, .only .mc), (0xF40, .only .lo), (0xF48, .only .cn),
  (0xF49, .only .lo), (0xF6D, .only .cn), (0xF71, .only .mn), (0xF7F, .only .mc),
  (0xF80, .only .mn), (0xF85, .only .po), (0xF86, .only .mn), (0xF88, .only .lo),
  (0xF8D, .only .mn), (0xF98, .only .cn), (0xF99, .only .mn), (0xFBD, .only .cn),
  (0xFBE, .only .so), (0xFC6, .only .mn), (0xFC7, .only .so), (0xFCD, .only .cn),
  (0xFCE, .only .so), (0xFD0, .only .po), (0xFD5, .only .so), (0xFD9, .only .po),
  (0xFDB, .only .cn), (0x1000, .only .lo), (0x102B, .only .mc), (0x102D, .only .mn),
  (0x1031, .only .mc), (0x1032, .only .mn), (0x1038, .only .mc), (0x1039, .only .mn),
  (0x103B, .only .mc), (0x103D, .only .mn), (0x103F, .only .lo), (0x1040, .only .nd),
  (0x104A, .only .po), (0x1050, .only .lo), (0x1056, .only .mc), (0x1058, .only .mn),
  (0x105A, .only .lo), (0x105E, .only .mn), (0x1061, .only .lo), (0x1062, .only .mc),
  (0x1065, .only .lo), (0x1067, .only .mc), (0x106E, .only .lo), (0x1071, .only .mn),
  (0x1075, .only .lo), (0x1082, .only .mn), (0x1083, .only .mc), (0x1085, .only .mn),
  (0x1087, .only .mc), (0x108D, .only .mn), (0x108E, .only .lo), (0x108F, .only .mc),
  (0x1090, .only .nd), (0x109A, .only .mc), (0x109D, .only .mn), (0x109E, .only .so),
  (0x10A0, .only .lu), (0x10C6, .only .cn), (0x10C7, .only .lu), (0x10C8, .only .cn),
  (0x10CD, .only .lu), (0x10CE, .only .cn), (0x10D0, .only .ll), (0x10FB, .only .po),
  (0x10FC, .only .lm), (0x10FD, .only .ll), (0x1100, .only .lo), (0x1249, .only .cn)]

/-- The runs from U+124A to U+1BA1. -/
def runsFrom124ATo1BA1 : List (Nat × Run) := [
  (0x124A, .only .lo), (0x124E, .only .cn), (0x1250, .only .lo), (0x1257, .only .cn),
  (0x1258, .only .lo), (0x1259, .only .cn), (0x125A, .only .lo), (0x125E, .only .cn),
  (0x1260, .only .lo), (0x1289, .only .cn), (0x128A, .only .lo), (0x128E, .only .cn),
  (0x1290, .only .lo), (0x12B1, .only .cn), (0x12B2, .only .lo), (0x12B6, .only .cn),
  (0x12B8, .only .lo), (0x12BF, .only .cn), (0x12C0, .only .lo), (0x12C1, .only .cn),
  (0x12C2, .only .lo), (0x12C6, .only .cn), (0x12C8, .only .lo), (0x12D7, .only .cn),
  (0x12D8, .only .lo), (0x1311, .only .cn), (0x1312, .only .lo), (0x1316, .only .cn),
  (0x1318, .only .lo), (0x135B, .only .cn), (0x135D, .only .mn), (0x1360, .only .po),
  (0x1369, .only .no), (0x137D, .only .cn), (0x1380, .only .lo), (0x1390, .only .so),
  (0x139A, .only .cn), (0x13A0, .only .lu), (0x13F6, .only .cn), (0x13F8, .only .ll),
  (0x13FE, .only .cn), (0x1400, .only .pd), (0x1401, .only .lo), (0x166D, .only .so),
  (0x166E, .only .po), (0x166F, .only .lo), (0x1680, .only .zs), (0x1681, .only .lo),
  (0x169B, .only .ps), (0x169C, .only .pe), (0x169D, .only .cn), (0x16A0, .only .lo),
  (0x16EB, .only .po), (0x16EE, .only .nl), (0x16F1, .only .lo), (0x16F9, .only .cn),
  (0x1700, .only .lo), (0x1712, .only .mn), (0x1715, .only .mc), (0x1716, .only .cn),
  (0x171F, .only .lo), (0x1732, .only .mn), (0x1734, .only .mc), (0x1735, .only .po),
  (0x1737, .only .cn), (0x1740, .only .lo), (0x1752, .only .mn), (0x1754, .only .cn),
  (0x1760, .only .lo), (0x176D, .only .cn), (0x176E, .only .lo), (0x1771, .only .cn),
  (0x1772, .only .mn), (0x1774, .only .cn), (0x1780, .only .lo), (0x17B4, .only .mn),
  (0x17B6, .only .mc), (0x17B7, .only .mn), (0x17BE, .only .mc), (0x17C6, .only .mn),
  (0x17C7, .only .mc), (0x17C9, .only .mn), (0x17D4, .only .po), (0x17D7, .only .lm),
  (0x17D8, .only .po), (0x17DB, .only .sc), (0x17DC, .only .lo), (0x17DD, .only .mn),
  (0x17DE, .only .cn), (0x17E0, .only .nd), (0x17EA, .only .cn), (0x17F0, .only .no),
  (0x17FA, .only .cn), (0x1800, .only .po), (0x1806, .only .pd), (0x1807, .only .po),
  (0x180B, .only .mn), (0x180E, .only .cf), (0x180F, .only .mn), (0x1810, .only .nd),
  (0x181A, .only .cn), (0x1820, .only .lo), (0x1843, .only .lm), (0x1844, .only .lo),
  (0x1879, .only .cn), (0x1880, .only .lo), (0x1885, .only .mn), (0x1887, .only .lo),
  (0x18A9, .only .mn), (0x18AA, .only .lo), (0x18AB, .only .cn), (0x18B0, .only .lo),
  (0x18F6, .only .cn), (0x1900, .only .lo), (0x191F, .only .cn), (0x1920, .only .mn),
  (0x1923, .only .mc), (0x1927, .only .mn), (0x1929, .only .mc), (0x192C, .only .cn),
  (0x1930, .only .mc), (0x1932, .only .mn), (0x1933, .only .mc), (0x1939, .only .mn),
  (0x193C, .only .cn), (0x1940, .only .so), (0x1941, .only .cn), (0x1944, .only .po),
  (0x1946, .only .nd), (0x1950, .only .lo), (0x196E, .only .cn), (0x1970, .only .lo),
  (0x1975, .only .cn), (0x1980, .only .lo), (0x19AC, .only .cn), (0x19B0, .only .lo),
  (0x19CA, .only .cn), (0x19D0, .only .nd), (0x19DA, .only .no), (0x19DB, .only .cn),
  (0x19DE, .only .so), (0x1A00, .only .lo), (0x1A17, .only .mn), (0x1A19, .only .mc),
  (0x1A1B, .only .mn), (0x1A1C, .only .cn), (0x1A1E, .only .po), (0x1A20, .only .lo),
  (0x1A55, .only .mc), (0x1A56, .only .mn), (0x1A57, .only .mc), (0x1A58, .only .mn),
  (0x1A5F, .only .cn), (0x1A60, .only .mn), (0x1A61, .only .mc), (0x1A62, .only .mn),
  (0x1A63, .only .mc), (0x1A65, .only .mn), (0x1A6D, .only .mc), (0x1A73, .only .mn),
  (0x1A7D, .only .cn), (0x1A7F, .only .mn), (0x1A80, .only .nd), (0x1A8A, .only .cn),
  (0x1A90, .only .nd), (0x1A9A, .only .cn), (0x1AA0, .only .po), (0x1AA7, .only .lm),
  (0x1AA8, .only .po), (0x1AAE, .only .cn), (0x1AB0, .only .mn), (0x1ABE, .only .me),
  (0x1ABF, .only .mn), (0x1ADE, .only .cn), (0x1AE0, .only .mn), (0x1AEC, .only .cn),
  (0x1B00, .only .mn), (0x1B04, .only .mc), (0x1B05, .only .lo), (0x1B34, .only .mn),
  (0x1B35, .only .mc), (0x1B36, .only .mn), (0x1B3B, .only .mc), (0x1B3C, .only .mn),
  (0x1B3D, .only .mc), (0x1B42, .only .mn), (0x1B43, .only .mc), (0x1B45, .only .lo),
  (0x1B4D, .only .cn), (0x1B4E, .only .po), (0x1B50, .only .nd), (0x1B5A, .only .po),
  (0x1B61, .only .so), (0x1B6B, .only .mn), (0x1B74, .only .so), (0x1B7D, .only .po),
  (0x1B80, .only .mn), (0x1B82, .only .mc), (0x1B83, .only .lo), (0x1BA1, .only .mc)]

/-- The runs from U+1BA2 to U+2115. -/
def runsFrom1BA2To2115 : List (Nat × Run) := [
  (0x1BA2, .only .mn), (0x1BA6, .only .mc), (0x1BA8, .only .mn), (0x1BAA, .only .mc),
  (0x1BAB, .only .mn), (0x1BAE, .only .lo), (0x1BB0, .only .nd), (0x1BBA, .only .lo),
  (0x1BE6, .only .mn), (0x1BE7, .only .mc), (0x1BE8, .only .mn), (0x1BEA, .only .mc),
  (0x1BED, .only .mn), (0x1BEE, .only .mc), (0x1BEF, .only .mn), (0x1BF2, .only .mc),
  (0x1BF4, .only .cn), (0x1BFC, .only .po), (0x1C00, .only .lo), (0x1C24, .only .mc),
  (0x1C2C, .only .mn), (0x1C34, .only .mc), (0x1C36, .only .mn), (0x1C38, .only .cn),
  (0x1C3B, .only .po), (0x1C40, .only .nd), (0x1C4A, .only .cn), (0x1C4D, .only .lo),
  (0x1C50, .only .nd), (0x1C5A, .only .lo), (0x1C78, .only .lm), (0x1C7E, .only .po),
  (0x1C80, .only .ll), (0x1C89, .only .lu), (0x1C8A, .only .ll), (0x1C8B, .only .cn),
  (0x1C90, .only .lu), (0x1CBB, .only .cn), (0x1CBD, .only .lu), (0x1CC0, .only .po),
  (0x1CC8, .only .cn), (0x1CD0, .only .mn), (0x1CD3, .only .po), (0x1CD4, .only .mn),
  (0x1CE1, .only .mc), (0x1CE2, .only .mn), (0x1CE9, .only .lo), (0x1CED, .only .mn),
  (0x1CEE, .only .lo), (0x1CF4, .only .mn), (0x1CF5, .only .lo), (0x1CF7, .only .mc),
  (0x1CF8, .only .mn), (0x1CFA, .only .lo), (0x1CFB, .only .cn), (0x1D00, .only .ll),
  (0x1D2C, .only .lm), (0x1D6B, .only .ll), (0x1D78, .only .lm), (0x1D79, .only .ll),
  (0x1D9B, .only .lm), (0x1DC0, .only .mn), (0x1E00, .pairs), (0x1E94, .only .lu),
  (0x1E95, .only .ll), (0x1E9E, .pairs), (0x1EFE, .only .lu), (0x1EFF, .only .ll),
  (0x1F08, .only .lu), (0x1F10, .only .ll), (0x1F16, .only .cn), (0x1F18, .only .lu),
  (0x1F1E, .only .cn), (0x1F20, .only .ll), (0x1F28, .only .lu), (0x1F30, .only .ll),
  (0x1F38, .only .lu), (0x1F40, .only .ll), (0x1F46, .only .cn), (0x1F48, .only .lu),
  (0x1F4E, .only .cn), (0x1F50, .only .ll), (0x1F58, .only .cn), (0x1F59, .only .lu),
  (0x1F5A, .only .cn), (0x1F5B, .only .lu), (0x1F5C, .only .cn), (0x1F5D, .only .lu),
  (0x1F5E, .only .cn), (0x1F5F, .only .lu), (0x1F60, .only .ll), (0x1F68, .only .lu),
  (0x1F70, .only .ll), (0x1F7E, .only .cn), (0x1F80, .only .ll), (0x1F88, .only .lt),
  (0x1F90, .only .ll), (0x1F98, .only .lt), (0x1FA0, .only .ll), (0x1FA8, .only .lt),
  (0x1FB0, .only .ll), (0x1FB5, .only .cn), (0x1FB6, .only .ll), (0x1FB8, .only .lu),
  (0x1FBC, .only .lt), (0x1FBD, .only .sk), (0x1FBE, .only .ll), (0x1FBF, .only .sk),
  (0x1FC2, .only .ll), (0x1FC5, .only .cn), (0x1FC6, .only .ll), (0x1FC8, .only .lu),
  (0x1FCC, .only .lt), (0x1FCD, .only .sk), (0x1FD0, .only .ll), (0x1FD4, .only .cn),
  (0x1FD6, .only .ll), (0x1FD8, .only .lu), (0x1FDC, .only .cn), (0x1FDD, .only .sk),
  (0x1FE0, .only .ll), (0x1FE8, .only .lu), (0x1FED, .only .sk), (0x1FF0, .only .cn),
  (0x1FF2, .only .ll), (0x1FF5, .only .cn), (0x1FF6, .only .ll), (0x1FF8, .only .lu),
  (0x1FFC, .only .lt), (0x1FFD, .only .sk), (0x1FFF, .only .cn), (0x2000, .only .zs),
  (0x200B, .only .cf), (0x2010, .only .pd), (0x2016, .only .po), (0x2018, .only .pi),
  (0x2019, .only .pf), (0x201A, .only .ps), (0x201B, .only .pi), (0x201D, .only .pf),
  (0x201E, .only .ps), (0x201F, .only .pi), (0x2020, .only .po), (0x2028, .only .zl),
  (0x2029, .only .zp), (0x202A, .only .cf), (0x202F, .only .zs), (0x2030, .only .po),
  (0x2039, .only .pi), (0x203A, .only .pf), (0x203B, .only .po), (0x203F, .only .pc),
  (0x2041, .only .po), (0x2044, .only .sm), (0x2045, .only .ps), (0x2046, .only .pe),
  (0x2047, .only .po), (0x2052, .only .sm), (0x2053, .only .po), (0x2054, .only .pc),
  (0x2055, .only .po), (0x205F, .only .zs), (0x2060, .only .cf), (0x2065, .only .cn),
  (0x2066, .only .cf), (0x2070, .only .no), (0x2071, .only .lm), (0x2072, .only .cn),
  (0x2074, .only .no), (0x207A, .only .sm), (0x207D, .only .ps), (0x207E, .only .pe),
  (0x207F, .only .lm), (0x2080, .only .no), (0x208A, .only .sm), (0x208D, .only .ps),
  (0x208E, .only .pe), (0x208F, .only .cn), (0x2090, .only .lm), (0x209D, .only .cn),
  (0x20A0, .only .sc), (0x20C2, .only .cn), (0x20D0, .only .mn), (0x20DD, .only .me),
  (0x20E1, .only .mn), (0x20E2, .only .me), (0x20E5, .only .mn), (0x20F1, .only .cn),
  (0x2100, .only .so), (0x2102, .only .lu), (0x2103, .only .so), (0x2107, .only .lu),
  (0x2108, .only .so), (0x210A, .only .ll), (0x210B, .only .lu), (0x210E, .only .ll),
  (0x2110, .only .lu), (0x2113, .only .ll), (0x2114, .only .so), (0x2115, .only .lu)]

/-- The runs from U+2116 to U+2D9F. -/
def runsFrom2116To2D9F : List (Nat × Run) := [
  (0x2116, .only .so), (0x2118, .only .sm), (0x2119, .only .lu), (0x211E, .only .so),
  (0x2124, .only .lu), (0x2125, .only .so), (0x2126, .only .lu), (0x2127, .only .so),
  (0x2128, .only .lu), (0x2129, .only .so), (0x212A, .only .lu), (0x212E, .only .so),
  (0x212F, .only .ll), (0x2130, .only .lu), (0x2134, .only .ll), (0x2135, .only .lo),
  (0x2139, .only .ll), (0x213A, .only .so), (0x213C, .only .ll), (0x213E, .only .lu),
  (0x2140, .only .sm), (0x2145, .only .lu), (0x2146, .only .ll), (0x214A, .only .so),
  (0x214B, .only .sm), (0x214C, .only .so), (0x214E, .only .ll), (0x214F, .only .so),
  (0x2150, .only .no), (0x2160, .only .nl), (0x2183, .only .lu), (0x2184, .only .ll),
  (0x2185, .only .nl), (0x2189, .only .no), (0x218A, .only .so), (0x218C, .only .cn),
  (0x2190, .only .sm), (0x2195, .only .so), (0x219A, .only .sm), (0x219C, .only .so),
  (0x21A0, .only .sm), (0x21A1, .only .so), (0x21A3, .only .sm), (0x21A4, .only .so),
  (0x21A6, .only .sm), (0x21A7, .only .so), (0x21AE, .only .sm), (0x21AF, .only .so),
  (0x21CE, .only .sm), (0x21D0, .only .so), (0x21D2, .only .sm), (0x21D3, .only .so),
  (0x21D4, .only .sm), (0x21D5, .only .so), (0x21F4, .only .sm), (0x2300, .only .so),
  (0x2308, .only .ps), (0x2309, .only .pe), (0x230A, .only .ps), (0x230B, .only .pe),
  (0x230C, .only .so), (0x2320, .only .sm), (0x2322, .only .so), (0x2329, .only .ps),
  (0x232A, .only .pe), (0x232B, .only .so), (0x237C, .only .sm), (0x237D, .only .so),
  (0x239B, .only .sm), (0x23B4, .only .so), (0x23DC, .only .sm), (0x23E2, .only .so),
  (0x242A, .only .cn), (0x2440, .only .so), (0x244B, .only .cn), (0x2460, .only .no),
  (0x249C, .only .so), (0x24EA, .only .no), (0x2500, .only .so), (0x25B7, .only .sm),
  (0x25B8, .only .so), (0x25C1, .only .sm), (0x25C2, .only .so), (0x25F8, .only .sm),
  (0x2600, .only .so), (0x266F, .only .sm), (0x2670, .only .so), (0x2768, .only .ps),
  (0x2769, .only .pe), (0x276A, .only .ps), (0x276B, .only .pe), (0x276C, .only .ps),
  (0x276D, .only .pe), (0x276E, .only .ps), (0x276F, .only .pe), (0x2770, .only .ps),
  (0x2771, .only .pe), (0x2772, .only .ps), (0x2773, .only .pe), (0x2774, .only .ps),
  (0x2775, .only .pe), (0x2776, .only .no), (0x2794, .only .so), (0x27C0, .only .sm),
  (0x27C5, .only .ps), (0x27C6, .only .pe), (0x27C7, .only .sm), (0x27E6, .only .ps),
  (0x27E7, .only .pe), (0x27E8, .only .ps), (0x27E9, .only .pe), (0x27EA, .only .ps),
  (0x27EB, .only .pe), (0x27EC, .only .ps), (0x27ED, .only .pe), (0x27EE, .only .ps),
  (0x27EF, .only .pe), (0x27F0, .only .sm), (0x2800, .only .so), (0x2900, .only .sm),
  (0x2983, .only .ps), (0x2984, .only .pe), (0x2985, .only .ps), (0x2986, .only .pe),
  (0x2987, .only .ps), (0x2988, .only .pe), (0x2989, .only .ps), (0x298A, .only .pe),
  (0x298B, .only .ps), (0x298C, .only .pe), (0x298D, .only .ps), (0x298E, .only .pe),
  (0x298F, .only .ps), (0x2990, .only .pe), (0x2991, .only .ps), (0x2992, .only .pe),
  (0x2993, .only .ps), (0x2994, .only .pe), (0x2995, .only .ps), (0x2996, .only .pe),
  (0x2997, .only .ps), (0x2998, .only .pe), (0x2999, .only .sm), (0x29D8, .only .ps),
  (0x29D9, .only .pe), (0x29DA, .only .ps), (0x29DB, .only .pe), (0x29DC, .only .sm),
  (0x29FC, .only .ps), (0x29FD, .only .pe), (0x29FE, .only .sm), (0x2B00, .only .so),
  (0x2B30, .only .sm), (0x2B45, .only .so), (0x2B47, .only .sm), (0x2B4D, .only .so),
  (0x2B74, .only .cn), (0x2B76, .only .so), (0x2C00, .only .lu), (0x2C30, .only .ll),
  (0x2C60, .only .lu), (0x2C61, .only .ll), (0x2C62, .only .lu), (0x2C65, .only .ll),
  (0x2C67, .pairs), (0x2C6D, .only .lu), (0x2C71, .only .ll), (0x2C72, .only .lu),
  (0x2C73, .only .ll), (0x2C75, .only .lu), (0x2C76, .only .ll), (0x2C7C, .only .lm),
  (0x2C7E, .only .lu), (0x2C81, .only .ll), (0x2C82, .pairs), (0x2CE2, .only .lu),
  (0x2CE3, .only .ll), (0x2CE5, .only .so), (0x2CEB, .pairs), (0x2CEF, .only .mn),
  (0x2CF2, .only .lu), (0x2CF3, .only .ll), (0x2CF4, .only .cn), (0x2CF9, .only .po),
  (0x2CFD, .only .no), (0x2CFE, .only .po), (0x2D00, .only .ll), (0x2D26, .only .cn),
  (0x2D27, .only .ll), (0x2D28, .only .cn), (0x2D2D, .only .ll), (0x2D2E, .only .cn),
  (0x2D30, .only .lo), (0x2D68, .only .cn), (0x2D6F, .only .lm), (0x2D70, .only .po),
  (0x2D71, .only .cn), (0x2D7F, .only .mn), (0x2D80, .only .lo), (0x2D97, .only .cn)]

/-- The runs from U+2DA0 to U+A78A. -/
def runsFrom2DA0ToA78A : List (Nat × Run) := [
  (0x2DA0, .only .lo), (0x2DA7, .only .cn), (0x2DA8, .only .lo), (0x2DAF, .only .cn),
  (0x2DB0, .only .lo), (0x2DB7, .only .cn), (0x2DB8, .only .lo), (0x2DBF, .only .cn),
  (0x2DC0, .only .lo), (0x2DC7, .only .cn), (0x2DC8, .only .lo), (0x2DCF, .only .cn),
  (0x2DD0, .only .lo), (0x2DD7, .only .cn), (0x2DD8, .only .lo), (0x2DDF, .only .cn),
  (0x2DE0, .only .mn), (0x2E00, .only .po), (0x2E02, .only .pi), (0x2E03, .only .pf),
  (0x2E04, .only .pi), (0x2E05, .only .pf), (0x2E06, .only .po), (0x2E09, .only .pi),
  (0x2E0A, .only .pf), (0x2E0B, .only .po), (0x2E0C, .only .pi), (0x2E0D, .only .pf),
  (0x2E0E, .only .po), (0x2E17, .only .pd), (0x2E18, .only .po), (0x2E1A, .only .pd),
  (0x2E1B, .only .po), (0x2E1C, .only .pi), (0x2E1D, .only .pf), (0x2E1E, .only .po),
  (0x2E20, .only .pi), (0x2E21, .only .pf), (0x2E22, .only .ps), (0x2E23, .only .pe),
  (0x2E24, .only .ps), (0x2E25, .only .pe), (0x2E26, .only .ps), (0x2E27, .only .pe),
  (0x2E28, .only .ps), (0x2E29, .only .pe), (0x2E2A, .only .po), (0x2E2F, .only .lm),
  (0x2E30, .only .po), (0x2E3A, .only .pd), (0x2E3C, .only .po), (0x2E40, .only .pd),
  (0x2E41, .only .po), (0x2E42, .only .ps), (0x2E43, .only .po), (0x2E50, .only .so),
  (0x2E52, .only .po), (0x2E55, .only .ps), (0x2E56, .only .pe), (0x2E57, .only .ps),
  (0x2E58, .only .pe), (0x2E59, .only .ps), (0x2E5A, .only .pe), (0x2E5B, .only .ps),
  (0x2E5C, .only .pe), (0x2E5D, .only .pd), (0x2E5E, .only .cn), (0x2E80, .only .so),
  (0x2E9A, .only .cn), (0x2E9B, .only .so), (0x2EF4, .only .cn), (0x2F00, .only .so),
  (0x2FD6, .only .cn), (0x2FF0, .only .so), (0x3000, .only .zs), (0x3001, .only .po),
  (0x3004, .only .so), (0x3005, .only .lm), (0x3006, .only .lo), (0x3007, .only .nl),
  (0x3008, .only .ps), (0x3009, .only .pe), (0x300A, .only .ps), (0x300B, .only .pe),
  (0x300C, .only .ps), (0x300D, .only .pe), (0x300E, .only .ps), (0x300F, .only .pe),
  (0x3010, .only .ps), (0x3011, .only .pe), (0x3012, .only .so), (0x3014, .only .ps),
  (0x3015, .only .pe), (0x3016, .only .ps), (0x3017, .only .pe), (0x3018, .only .ps),
  (0x3019, .only .pe), (0x301A, .only .ps), (0x301B, .only .pe), (0x301C, .only .pd),
  (0x301D, .only .ps), (0x301E, .only .pe), (0x3020, .only .so), (0x3021, .only .nl),
  (0x302A, .only .mn), (0x302E, .only .mc), (0x3030, .only .pd), (0x3031, .only .lm),
  (0x3036, .only .so), (0x3038, .only .nl), (0x303B, .only .lm), (0x303C, .only .lo),
  (0x303D, .only .po), (0x303E, .only .so), (0x3040, .only .cn), (0x3041, .only .lo),
  (0x3097, .only .cn), (0x3099, .only .mn), (0x309B, .only .sk), (0x309D, .only .lm),
  (0x309F, .only .lo), (0x30A0, .only .pd), (0x30A1, .only .lo), (0x30FB, .only .po),
  (0x30FC, .only .lm), (0x30FF, .only .lo), (0x3100, .only .cn), (0x3105, .only .lo),
  (0x3130, .only .cn), (0x3131, .only .lo), (0x318F, .only .cn), (0x3190, .only .so),
  (0x3192, .only .no), (0x3196, .only .so), (0x31A0, .only .lo), (0x31C0, .only .so),
  (0x31E6, .only .cn), (0x31EF, .only .so), (0x31F0, .only .lo), (0x3200, .only .so),
  (0x321F, .only .cn), (0x3220, .only .no), (0x322A, .only .so), (0x3248, .only .no),
  (0x3250, .only .so), (0x3251, .only .no), (0x3260, .only .so), (0x3280, .only .no),
  (0x328A, .only .so), (0x32B1, .only .no), (0x32C0, .only .so), (0x3400, .only .lo),
  (0x4DC0, .only .so), (0x4E00, .only .lo), (0xA015, .only .lm), (0xA016, .only .lo),
  (0xA48D, .only .cn), (0xA490, .only .so), (0xA4C7, .only .cn), (0xA4D0, .only .lo),
  (0xA4F8, .only .lm), (0xA4FE, .only .po), (0xA500, .only .lo), (0xA60C, .only .lm),
  (0xA60D, .only .po), (0xA610, .only .lo), (0xA620, .only .nd), (0xA62A, .only .lo),
  (0xA62C, .only .cn), (0xA640, .pairs), (0xA66E, .only .lo), (0xA66F, .only .mn),
  (0xA670, .only .me), (0xA673, .only .po), (0xA674, .only .mn), (0xA67E, .only .po),
  (0xA67F, .only .lm), (0xA680, .pairs), (0xA69C, .only .lm), (0xA69E, .only .mn),
  (0xA6A0, .only .lo), (0xA6E6, .only .nl), (0xA6F0, .only .mn), (0xA6F2, .only .po),
  (0xA6F8, .only .cn), (0xA700, .only .sk), (0xA717, .only .lm), (0xA720, .only .sk),
  (0xA722, .pairs), (0xA72E, .only .lu), (0xA72F, .only .ll), (0xA732, .pairs),
  (0xA770, .only .lm), (0xA771, .only .ll), (0xA779, .pairs), (0xA77D, .only .lu),
  (0xA77F, .only .ll), (0xA780, .pairs), (0xA788, .only .lm), (0xA789, .only .sk)]

/-- The runs from U+A78B to U+FB3E. -/
def runsFromA78BToFB3E : List (Nat × Run) := [
  (0xA78B, .pairs), (0xA78F, .only .lo), (0xA790, .only .lu), (0xA791, .only .ll),
  (0xA792, .only .lu), (0xA793, .only .ll), (0xA796, .pairs), (0xA7AA, .only .lu),
  (0xA7AF, .only .ll), (0xA7B0, .only .lu), (0xA7B5, .only .ll), (0xA7B6, .pairs),
  (0xA7C4, .only .lu), (0xA7C8, .only .ll), (0xA7C9, .only .lu), (0xA7CA, .only .ll),
  (0xA7CB, .only .lu), (0xA7CD, .only .ll), (0xA7CE, .pairs), (0xA7DC, .only .lu),
  (0xA7DD, .only .cn), (0xA7F1, .only .lm), (0xA7F5, .only .lu), (0xA7F6, .only .ll),
  (0xA7F7, .only .lo), (0xA7F8, .only .lm), (0xA7FA, .only .ll), (0xA7FB, .only .lo),
  (0xA802, .only .mn), (0xA803, .only .lo), (0xA806, .only .mn), (0xA807, .only .lo),
  (0xA80B, .only .mn), (0xA80C, .only .lo), (0xA823, .only .mc), (0xA825, .only .mn),
  (0xA827, .only .mc), (0xA828, .only .so), (0xA82C, .only .mn), (0xA82D, .only .cn),
  (0xA830, .only .no), (0xA836, .only .so), (0xA838, .only .sc), (0xA839, .only .so),
  (0xA83A, .only .cn), (0xA840, .only .lo), (0xA874, .only .po), (0xA878, .only .cn),
  (0xA880, .only .mc), (0xA882, .only .lo), (0xA8B4, .only .mc), (0xA8C4, .only .mn),
  (0xA8C6, .only .cn), (0xA8CE, .only .po), (0xA8D0, .only .nd), (0xA8DA, .only .cn),
  (0xA8E0, .only .mn), (0xA8F2, .only .lo), (0xA8F8, .only .po), (0xA8FB, .only .lo),
  (0xA8FC, .only .po), (0xA8FD, .only .lo), (0xA8FF, .only .mn), (0xA900, .only .nd),
  (0xA90A, .only .lo), (0xA926, .only .mn), (0xA92E, .only .po), (0xA930, .only .lo),
  (0xA947, .only .mn), (0xA952, .only .mc), (0xA954, .only .cn), (0xA95F, .only .po),
  (0xA960, .only .lo), (0xA97D, .only .cn), (0xA980, .only .mn), (0xA983, .only .mc),
  (0xA984, .only .lo), (0xA9B3, .only .mn), (0xA9B4, .only .mc), (0xA9B6, .only .mn),
  (0xA9BA, .only .mc), (0xA9BC, .only .mn), (0xA9BE, .only .mc), (0xA9C1, .only .po),
  (0xA9CE, .only .cn), (0xA9CF, .only .lm), (0xA9D0, .only .nd), (0xA9DA, .only .cn),
  (0xA9DE, .only .po), (0xA9E0, .only .lo), (0xA9E5, .only .mn), (0xA9E6, .only .lm),
  (0xA9E7, .only .lo), (0xA9F0, .only .nd), (0xA9FA, .only .lo), (0xA9FF, .only .cn),
  (0xAA00, .only .lo), (0xAA29, .only .mn), (0xAA2F, .only .mc), (0xAA31, .only .mn),
  (0xAA33, .only .mc), (0xAA35, .only .mn), (0xAA37, .only .cn), (0xAA40, .only .lo),
  (0xAA43, .only .mn), (0xAA44, .only .lo), (0xAA4C, .only .mn), (0xAA4D, .only .mc),
  (0xAA4E, .only .cn), (0xAA50, .only .nd), (0xAA5A, .only .cn), (0xAA5C, .only .po),
  (0xAA60, .only .lo), (0xAA70, .only .lm), (0xAA71, .only .lo), (0xAA77, .only .so),
  (0xAA7A, .only .lo), (0xAA7B, .only .mc), (0xAA7C, .only .mn), (0xAA7D, .only .mc),
  (0xAA7E, .only .lo), (0xAAB0, .only .mn), (0xAAB1, .only .lo), (0xAAB2, .only .mn),
  (0xAAB5, .only .lo), (0xAAB7, .only .mn), (0xAAB9, .only .lo), (0xAABE, .only .mn),
  (0xAAC0, .only .lo), (0xAAC1, .only .mn), (0xAAC2, .only .lo), (0xAAC3, .only .cn),
  (0xAADB, .only .lo), (0xAADD, .only .lm), (0xAADE, .only .po), (0xAAE0, .only .lo),
  (0xAAEB, .only .mc), (0xAAEC, .only .mn), (0xAAEE, .only .mc), (0xAAF0, .only .po),
  (0xAAF2, .only .lo), (0xAAF3, .only .lm), (0xAAF5, .only .mc), (0xAAF6, .only .mn),
  (0xAAF7, .only .cn), (0xAB01, .only .lo), (0xAB07, .only .cn), (0xAB09, .only .lo),
  (0xAB0F, .only .cn), (0xAB11, .only .lo), (0xAB17, .only .cn), (0xAB20, .only .lo),
  (0xAB27, .only .cn), (0xAB28, .only .lo), (0xAB2F, .only .cn), (0xAB30, .only .ll),
  (0xAB5B, .only .sk), (0xAB5C, .only .lm), (0xAB60, .only .ll), (0xAB69, .only .lm),
  (0xAB6A, .only .sk), (0xAB6C, .only .cn), (0xAB70, .only .ll), (0xABC0, .only .lo),
  (0xABE3, .only .mc), (0xABE5, .only .mn), (0xABE6, .only .mc), (0xABE8, .only .mn),
  (0xABE9, .only .mc), (0xABEB, .only .po), (0xABEC, .only .mc), (0xABED, .only .mn),
  (0xABEE, .only .cn), (0xABF0, .only .nd), (0xABFA, .only .cn), (0xAC00, .only .lo),
  (0xD7A4, .only .cn), (0xD7B0, .only .lo), (0xD7C7, .only .cn), (0xD7CB, .only .lo),
  (0xD7FC, .only .cn), (0xD800, .only .cs), (0xE000, .only .co), (0xF900, .only .lo),
  (0xFA6E, .only .cn), (0xFA70, .only .lo), (0xFADA, .only .cn), (0xFB00, .only .ll),
  (0xFB07, .only .cn), (0xFB13, .only .ll), (0xFB18, .only .cn), (0xFB1D, .only .lo),
  (0xFB1E, .only .mn), (0xFB1F, .only .lo), (0xFB29, .only .sm), (0xFB2A, .only .lo),
  (0xFB37, .only .cn), (0xFB38, .only .lo), (0xFB3D, .only .cn), (0xFB3E, .only .lo)]

/-- The runs from U+FB3F to U+104AF. -/
def runsFromFB3FTo104AF : List (Nat × Run) := [
  (0xFB3F, .only .cn), (0xFB40, .only .lo), (0xFB42, .only .cn), (0xFB43, .only .lo),
  (0xFB45, .only .cn), (0xFB46, .only .lo), (0xFBB2, .only .sk), (0xFBC3, .only .so),
  (0xFBD3, .only .lo), (0xFD3E, .only .pe), (0xFD3F, .only .ps), (0xFD40, .only .so),
  (0xFD50, .only .lo), (0xFD90, .only .so), (0xFD92, .only .lo), (0xFDC8, .only .so),
  (0xFDD0, .only .cn), (0xFDF0, .only .lo), (0xFDFC, .only .sc), (0xFDFD, .only .so),
  (0xFE00, .only .mn), (0xFE10, .only .po), (0xFE17, .only .ps), (0xFE18, .only .pe),
  (0xFE19, .only .po), (0xFE1A, .only .cn), (0xFE20, .only .mn), (0xFE30, .only .po),
  (0xFE31, .only .pd), (0xFE33, .only .pc), (0xFE35, .only .ps), (0xFE36, .only .pe),
  (0xFE37, .only .ps), (0xFE38, .only .pe), (0xFE39, .only .ps), (0xFE3A, .only .pe),
  (0xFE3B, .only .ps), (0xFE3C, .only .pe), (0xFE3D, .only .ps), (0xFE3E, .only .pe),
  (0xFE3F, .only .ps), (0xFE40, .only .pe), (0xFE41, .only .ps), (0xFE42, .only .pe),
  (0xFE43, .only .ps), (0xFE44, .only .pe), (0xFE45, .only .po), (0xFE47, .only .ps),
  (0xFE48, .only .pe), (0xFE49, .only .po), (0xFE4D, .only .pc), (0xFE50, .only .po),
  (0xFE53, .only .cn), (0xFE54, .only .po), (0xFE58, .only .pd), (0xFE59, .only .ps),
  (0xFE5A, .only .pe), (0xFE5B, .only .ps), (0xFE5C, .only .pe), (0xFE5D, .only .ps),
  (0xFE5E, .only .pe), (0xFE5F, .only .po), (0xFE62, .only .sm), (0xFE63, .only .pd),
  (0xFE64, .only .sm), (0xFE67, .only .cn), (0xFE68, .only .po), (0xFE69, .only .sc),
  (0xFE6A, .only .po), (0xFE6C, .only .cn), (0xFE70, .only .lo), (0xFE75, .only .cn),
  (0xFE76, .only .lo), (0xFEFD, .only .cn), (0xFEFF, .only .cf), (0xFF00, .only .cn),
  (0xFF01, .only .po), (0xFF04, .only .sc), (0xFF05, .only .po), (0xFF08, .only .ps),
  (0xFF09, .only .pe), (0xFF0A, .only .po), (0xFF0B, .only .sm), (0xFF0C, .only .po),
  (0xFF0D, .only .pd), (0xFF0E, .only .po), (0xFF10, .only .nd), (0xFF1A, .only .po),
  (0xFF1C, .only .sm), (0xFF1F, .only .po), (0xFF21, .only .lu), (0xFF3B, .only .ps),
  (0xFF3C, .only .po), (0xFF3D, .only .pe), (0xFF3E, .only .sk), (0xFF3F, .only .pc),
  (0xFF40, .only .sk), (0xFF41, .only .ll), (0xFF5B, .only .ps), (0xFF5C, .only .sm),
  (0xFF5D, .only .pe), (0xFF5E, .only .sm), (0xFF5F, .only .ps), (0xFF60, .only .pe),
  (0xFF61, .only .po), (0xFF62, .only .ps), (0xFF63, .only .pe), (0xFF64, .only .po),
  (0xFF66, .only .lo), (0xFF70, .only .lm), (0xFF71, .only .lo), (0xFF9E, .only .lm),
  (0xFFA0, .only .lo), (0xFFBF, .only .cn), (0xFFC2, .only .lo), (0xFFC8, .only .cn),
  (0xFFCA, .only .lo), (0xFFD0, .only .cn), (0xFFD2, .only .lo), (0xFFD8, .only .cn),
  (0xFFDA, .only .lo), (0xFFDD, .only .cn), (0xFFE0, .only .sc), (0xFFE2, .only .sm),
  (0xFFE3, .only .sk), (0xFFE4, .only .so), (0xFFE5, .only .sc), (0xFFE7, .only .cn),
  (0xFFE8, .only .so), (0xFFE9, .only .sm), (0xFFED, .only .so), (0xFFEF, .only .cn),
  (0xFFF9, .only .cf), (0xFFFC, .only .so), (0xFFFE, .only .cn), (0x10000, .only .lo),
  (0x1000C, .only .cn), (0x1000D, .only .lo), (0x10027, .only .cn), (0x10028, .only .lo),
  (0x1003B, .only .cn), (0x1003C, .only .lo), (0x1003E, .only .cn), (0x1003F, .only .lo),
  (0x1004E, .only .cn), (0x10050, .only .lo), (0x1005E, .only .cn), (0x10080, .only .lo),
  (0x100FB, .only .cn), (0x10100, .only .po), (0x10103, .only .cn), (0x10107, .only .no),
  (0x10134, .only .cn), (0x10137, .only .so), (0x10140, .only .nl), (0x10175, .only .no),
  (0x10179, .only .so), (0x1018A, .only .no), (0x1018C, .only .so), (0x1018F, .only .cn),
  (0x10190, .only .so), (0x1019D, .only .cn), (0x101A0, .only .so), (0x101A1, .only .cn),
  (0x101D0, .only .so), (0x101FD, .only .mn), (0x101FE, .only .cn), (0x10280, .only .lo),
  (0x1029D, .only .cn), (0x102A0, .only .lo), (0x102D1, .only .cn), (0x102E0, .only .mn),
  (0x102E1, .only .no), (0x102FC, .only .cn), (0x10300, .only .lo), (0x10320, .only .no),
  (0x10324, .only .cn), (0x1032D, .only .lo), (0x10341, .only .nl), (0x10342, .only .lo),
  (0x1034A, .only .nl), (0x1034B, .only .cn), (0x10350, .only .lo), (0x10376, .only .mn),
  (0x1037B, .only .cn), (0x10380, .only .lo), (0x1039E, .only .cn), (0x1039F, .only .po),
  (0x103A0, .only .lo), (0x103C4, .only .cn), (0x103C8, .only .lo), (0x103D0, .only .po),
  (0x103D1, .only .nl), (0x103D6, .only .cn), (0x10400, .only .lu), (0x10428, .only .ll),
  (0x10450, .only .lo), (0x1049E, .only .cn), (0x104A0, .only .nd), (0x104AA, .only .cn)]

/-- The runs from U+104B0 to U+11072. -/
def runsFrom104B0To11072 : List (Nat × Run) := [
  (0x104B0, .only .lu), (0x104D4, .only .cn), (0x104D8, .only .ll), (0x104FC, .only .cn),
  (0x10500, .only .lo), (0x10528, .only .cn), (0x10530, .only .lo), (0x10564, .only .cn),
  (0x1056F, .only .po), (0x10570, .only .lu), (0x1057B, .only .cn), (0x1057C, .only .lu),
  (0x1058B, .only .cn), (0x1058C, .only .lu), (0x10593, .only .cn), (0x10594, .only .lu),
  (0x10596, .only .cn), (0x10597, .only .ll), (0x105A2, .only .cn), (0x105A3, .only .ll),
  (0x105B2, .only .cn), (0x105B3, .only .ll), (0x105BA, .only .cn), (0x105BB, .only .ll),
  (0x105BD, .only .cn), (0x105C0, .only .lo), (0x105F4, .only .cn), (0x10600, .only .lo),
  (0x10737, .only .cn), (0x10740, .only .lo), (0x10756, .only .cn), (0x10760, .only .lo),
  (0x10768, .only .cn), (0x10780, .only .lm), (0x10786, .only .cn), (0x10787, .only .lm),
  (0x107B1, .only .cn), (0x107B2, .only .lm), (0x107BB, .only .cn), (0x10800, .only .lo),
  (0x10806, .only .cn), (0x10808, .only .lo), (0x10809, .only .cn), (0x1080A, .only .lo),
  (0x10836, .only .cn), (0x10837, .only .lo), (0x10839, .only .cn), (0x1083C, .only .lo),
  (0x1083D, .only .cn), (0x1083F, .only .lo), (0x10856, .only .cn), (0x10857, .only .po),
  (0x10858, .only .no), (0x10860, .only .lo), (0x10877, .only .so), (0x10879, .only .no),
  (0x10880, .only .lo), (0x1089F, .only .cn), (0x108A7, .only .no), (0x108B0, .only .cn),
  (0x108E0, .only .lo), (0x108F3, .only .cn), (0x108F4, .only .lo), (0x108F6, .only .cn),
  (0x108FB, .only .no), (0x10900, .only .lo), (0x10916, .only .no), (0x1091C, .only .cn),
  (0x1091F, .only .po), (0x10920, .only .lo), (0x1093A, .only .cn), (0x1093F, .only .po),
  (0x10940, .only .lo), (0x1095A, .only .cn), (0x10980, .only .lo), (0x109B8, .only .cn),
  (0x109BC, .only .no), (0x109BE, .only .lo), (0x109C0, .only .no), (0x109D0, .only .cn),
  (0x109D2, .only .no), (0x10A00, .only .lo), (0x10A01, .only .mn), (0x10A04, .only .cn),
  (0x10A05, .only .mn), (0x10A07, .only .cn), (0x10A0C, .only .mn), (0x10A10, .only .lo),
  (0x10A14, .only .cn), (0x10A15, .only .lo), (0x10A18, .only .cn), (0x10A19, .only .lo),
  (0x10A36, .only .cn), (0x10A38, .only .mn), (0x10A3B, .only .cn), (0x10A3F, .only .mn),
  (0x10A40, .only .no), (0x10A49, .only .cn), (0x10A50, .only .po), (0x10A59, .only .cn),
  (0x10A60, .only .lo), (0x10A7D, .only .no), (0x10A7F, .only .po), (0x10A80, .only .lo),
  (0x10A9D, .only .no), (0x10AA0, .only .cn), (0x10AC0, .only .lo), (0x10AC8, .only .so),
  (0x10AC9, .only .lo), (0x10AE5, .only .mn), (0x10AE7, .only .cn), (0x10AEB, .only .no),
  (0x10AF0, .only .po), (0x10AF7, .only .cn), (0x10B00, .only .lo), (0x10B36, .only .cn),
  (0x10B39, .only .po), (0x10B40, .only .lo), (0x10B56, .only .cn), (0x10B58, .only .no),
  (0x10B60, .only .lo), (0x10B73, .only .cn), (0x10B78, .only .no), (0x10B80, .only .lo),
  (0x10B92, .only .cn), (0x10B99, .only .po), (0x10B9D, .only .cn), (0x10BA9, .only .no),
  (0x10BB0, .only .cn), (0x10C00, .only .lo), (0x10C49, .only .cn), (0x10C80, .only .lu),
  (0x10CB3, .only .cn), (0x10CC0, .only .ll), (0x10CF3, .only .cn), (0x10CFA, .only .no),
  (0x10D00, .only .lo), (0x10D24, .only .mn), (0x10D28, .only .cn), (0x10D30, .only .nd),
  (0x10D3A, .only .cn), (0x10D40, .only .nd), (0x10D4A, .only .lo), (0x10D4E, .only .lm),
  (0x10D4F, .only .lo), (0x10D50, .only .lu), (0x10D66, .only .cn), (0x10D69, .only .mn),
  (0x10D6E, .only .pd), (0x10D6F, .only .lm), (0x10D70, .only .ll), (0x10D86, .only .cn),
  (0x10D8E, .only .sm), (0x10D90, .only .cn), (0x10E60, .only .no), (0x10E7F, .only .cn),
  (0x10E80, .only .lo), (0x10EAA, .only .cn), (0x10EAB, .only .mn), (0x10EAD, .only .pd),
  (0x10EAE, .only .cn), (0x10EB0, .only .lo), (0x10EB2, .only .cn), (0x10EC2, .only .lo),
  (0x10EC5, .only .lm), (0x10EC6, .only .lo), (0x10EC8, .only .cn), (0x10ED0, .only .po),
  (0x10ED1, .only .so), (0x10ED9, .only .cn), (0x10EFA, .only .mn), (0x10F00, .only .lo),
  (0x10F1D, .only .no), (0x10F27, .only .lo), (0x10F28, .only .cn), (0x10F30, .only .lo),
  (0x10F46, .only .mn), (0x10F51, .only .no), (0x10F55, .only .po), (0x10F5A, .only .cn),
  (0x10F70, .only .lo), (0x10F82, .only .mn), (0x10F86, .only .po), (0x10F8A, .only .cn),
  (0x10FB0, .only .lo), (0x10FC5, .only .no), (0x10FCC, .only .cn), (0x10FE0, .only .lo),
  (0x10FF7, .only .cn), (0x11000, .only .mc), (0x11001, .only .mn), (0x11002, .only .mc),
  (0x11003, .only .lo), (0x11038, .only .mn), (0x11047, .only .po), (0x1104E, .only .cn),
  (0x11052, .only .no), (0x11066, .only .nd), (0x11070, .only .mn), (0x11071, .only .lo)]

/-- The runs from U+11073 to U+115FF. -/
def runsFrom11073To115FF : List (Nat × Run) := [
  (0x11073, .only .mn), (0x11075, .only .lo), (0x11076, .only .cn), (0x1107F, .only .mn),
  (0x11082, .only .mc), (0x11083, .only .lo), (0x110B0, .only .mc), (0x110B3, .only .mn),
  (0x110B7, .only .mc), (0x110B9, .only .mn), (0x110BB, .only .po), (0x110BD, .only .cf),
  (0x110BE, .only .po), (0x110C2, .only .mn), (0x110C3, .only .cn), (0x110CD, .only .cf),
  (0x110CE, .only .cn), (0x110D0, .only .lo), (0x110E9, .only .cn), (0x110F0, .only .nd),
  (0x110FA, .only .cn), (0x11100, .only .mn), (0x11103, .only .lo), (0x11127, .only .mn),
  (0x1112C, .only .mc), (0x1112D, .only .mn), (0x11135, .only .cn), (0x11136, .only .nd),
  (0x11140, .only .po), (0x11144, .only .lo), (0x11145, .only .mc), (0x11147, .only .lo),
  (0x11148, .only .cn), (0x11150, .only .lo), (0x11173, .only .mn), (0x11174, .only .po),
  (0x11176, .only .lo), (0x11177, .only .cn), (0x11180, .only .mn), (0x11182, .only .mc),
  (0x11183, .only .lo), (0x111B3, .only .mc), (0x111B6, .only .mn), (0x111BF, .only .mc),
  (0x111C1, .only .lo), (0x111C5, .only .po), (0x111C9, .only .mn), (0x111CD, .only .po),
  (0x111CE, .only .mc), (0x111CF, .only .mn), (0x111D0, .only .nd), (0x111DA, .only .lo),
  (0x111DB, .only .po), (0x111DC, .only .lo), (0x111DD, .only .po), (0x111E0, .only .cn),
  (0x111E1, .only .no), (0x111F5, .only .cn), (0x11200, .only .lo), (0x11212, .only .cn),
  (0x11213, .only .lo), (0x1122C, .only .mc), (0x1122F, .only .mn), (0x11232, .only .mc),
  (0x11234, .only .mn), (0x11235, .only .mc), (0x11236, .only .mn), (0x11238, .only .po),
  (0x1123E, .only .mn), (0x1123F, .only .lo), (0x11241, .only .mn), (0x11242, .only .cn),
  (0x11280, .only .lo), (0x11287, .only .cn), (0x11288, .only .lo), (0x11289, .only .cn),
  (0x1128A, .only .lo), (0x1128E, .only .cn), (0x1128F, .only .lo), (0x1129E, .only .cn),
  (0x1129F, .only .lo), (0x112A9, .only .po), (0x112AA, .only .cn), (0x112B0, .only .lo),
  (0x112DF, .only .mn), (0x112E0, .only .mc), (0x112E3, .only .mn), (0x112EB, .only .cn),
  (0x112F0, .only .nd), (0x112FA, .only .cn), (0x11300, .only .mn), (0x11302, .only .mc),
  (0x11304, .only .cn), (0x11305, .only .lo), (0x1130D, .only .cn), (0x1130F, .only .lo),
  (0x11311, .only .cn), (0x11313, .only .lo), (0x11329, .only .cn), (0x1132A, .only .lo),
  (0x11331, .only .cn), (0x11332, .only .lo), (0x11334, .only .cn), (0x11335, .only .lo),
  (0x1133A, .only .cn), (0x1133B, .only .mn), (0x1133D, .only .lo), (0x1133E, .only .mc),
  (0x11340, .only .mn), (0x11341, .only .mc), (0x11345, .only .cn), (0x11347, .only .mc),
  (0x11349, .only .cn), (0x1134B, .only .mc), (0x1134E, .only .cn), (0x11350, .only .lo),
  (0x11351, .only .cn), (0x11357, .only .mc), (0x11358, .only .cn), (0x1135D, .only .lo),
  (0x11362, .only .mc), (0x11364, .only .cn), (0x11366, .only .mn), (0x1136D, .only .cn),
  (0x11370, .only .mn), (0x11375, .only .cn), (0x11380, .only .lo), (0x1138A, .only .cn),
  (0x1138B, .only .lo), (0x1138C, .only .cn), (0x1138E, .only .lo), (0x1138F, .only .cn),
  (0x11390, .only .lo), (0x113B6, .only .cn), (0x113B7, .only .lo), (0x113B8, .only .mc),
  (0x113BB, .only .mn), (0x113C1, .only .cn), (0x113C2, .only .mc), (0x113C3, .only .cn),
  (0x113C5, .only .mc), (0x113C6, .only .cn), (0x113C7, .only .mc), (0x113CB, .only .cn),
  (0x113CC, .only .mc), (0x113CE, .only .mn), (0x113CF, .only .mc), (0x113D0, .only .mn),
  (0x113D1, .only .lo), (0x113D2, .only .mn), (0x113D3, .only .lo), (0x113D4, .only .po),
  (0x113D6, .only .cn), (0x113D7, .only .po), (0x113D9, .only .cn), (0x113E1, .only .mn),
  (0x113E3, .only .cn), (0x11400, .only .lo), (0x11435, .only .mc), (0x11438, .only .mn),
  (0x11440, .only .mc), (0x11442, .only .mn), (0x11445, .only .mc), (0x11446, .only .mn),
  (0x11447, .only .lo), (0x1144B, .only .po), (0x11450, .only .nd), (0x1145A, .only .po),
  (0x1145C, .only .cn), (0x1145D, .only .po), (0x1145E, .only .mn), (0x1145F, .only .lo),
  (0x11462, .only .cn), (0x11480, .only .lo), (0x114B0, .only .mc), (0x114B3, .only .mn),
  (0x114B9, .only .mc), (0x114BA, .only .mn), (0x114BB, .only .mc), (0x114BF, .only .mn),
  (0x114C1, .only .mc), (0x114C2, .only .mn), (0x114C4, .only .lo), (0x114C6, .only .po),
  (0x114C7, .only .lo), (0x114C8, .only .cn), (0x114D0, .only .nd), (0x114DA, .only .cn),
  (0x11580, .only .lo), (0x115AF, .only .mc), (0x115B2, .only .mn), (0x115B6, .only .cn),
  (0x115B8, .only .mc), (0x115BC, .only .mn), (0x115BE, .only .mc), (0x115BF, .only .mn),
  (0x115C1, .only .po), (0x115D8, .only .lo), (0x115DC, .only .mn), (0x115DE, .only .cn)]

/-- The runs from U+11600 to U+11DE9. -/
def runsFrom11600To11DE9 : List (Nat × Run) := [
  (0x11600, .only .lo), (0x11630, .only .mc), (0x11633, .only .mn), (0x1163B, .only .mc),
  (0x1163D, .only .mn), (0x1163E, .only .mc), (0x1163F, .only .mn), (0x11641, .only .po),
  (0x11644, .only .lo), (0x11645, .only .cn), (0x11650, .only .nd), (0x1165A, .only .cn),
  (0x11660, .only .po), (0x1166D, .only .cn), (0x11680, .only .lo), (0x116AB, .only .mn),
  (0x116AC, .only .mc), (0x116AD, .only .mn), (0x116AE, .only .mc), (0x116B0, .only .mn),
  (0x116B6, .only .mc), (0x116B7, .only .mn), (0x116B8, .only .lo), (0x116B9, .only .po),
  (0x116BA, .only .cn), (0x116C0, .only .nd), (0x116CA, .only .cn), (0x116D0, .only .nd),
  (0x116E4, .only .cn), (0x11700, .only .lo), (0x1171B, .only .cn), (0x1171D, .only .mn),
  (0x1171E, .only .mc), (0x1171F, .only .mn), (0x11720, .only .mc), (0x11722, .only .mn),
  (0x11726, .only .mc), (0x11727, .only .mn), (0x1172C, .only .cn), (0x11730, .only .nd),
  (0x1173A, .only .no), (0x1173C, .only .po), (0x1173F, .only .so), (0x11740, .only .lo),
  (0x11747, .only .cn), (0x11800, .only .lo), (0x1182C, .only .mc), (0x1182F, .only .mn),
  (0x11838, .only .mc), (0x11839, .only .mn), (0x1183B, .only .po), (0x1183C, .only .cn),
  (0x118A0, .only .lu), (0x118C0, .only .ll), (0x118E0, .only .nd), (0x118EA, .only .no),
  (0x118F3, .only .cn), (0x118FF, .only .lo), (0x11907, .only .cn), (0x11909, .only .lo),
  (0x1190A, .only .cn), (0x1190C, .only .lo), (0x11914, .only .cn), (0x11915, .only .lo),
  (0x11917, .only .cn), (0x11918, .only .lo), (0x11930, .only .mc), (0x11936, .only .cn),
  (0x11937, .only .mc), (0x11939, .only .cn), (0x1193B, .only .mn), (0x1193D, .only .mc),
  (0x1193E, .only .mn), (0x1193F, .only .lo), (0x11940, .only .mc), (0x11941, .only .lo),
  (0x11942, .only .mc), (0x11943, .only .mn), (0x11944, .only .po), (0x11947, .only .cn),
  (0x11950, .only .nd), (0x1195A, .only .cn), (0x119A0, .only .lo), (0x119A8, .only .cn),
  (0x119AA, .only .lo), (0x119D1, .only .mc), (0x119D4, .only .mn), (0x119D8, .only .cn),
  (0x119DA, .only .mn), (0x119DC, .only .mc), (0x119E0, .only .mn), (0x119E1, .only .lo),
  (0x119E2, .only .po), (0x119E3, .only .lo), (0x119E4, .only .mc), (0x119E5, .only .cn),
  (0x11A00, .only .lo), (0x11A01, .only .mn), (0x11A0B, .only .lo), (0x11A33, .only .mn),
  (0x11A39, .only .mc), (0x11A3A, .only .lo), (0x11A3B, .only .mn), (0x11A3F, .only .po),
  (0x11A47, .only .mn), (0x11A48, .only .cn), (0x11A50, .only .lo), (0x11A51, .only .mn),
  (0x11A57, .only .mc), (0x11A59, .only .mn), (0x11A5C, .only .lo), (0x11A8A, .only .mn),
  (0x11A97, .only .mc), (0x11A98, .only .mn), (0x11A9A, .only .po), (0x11A9D, .only .lo),
  (0x11A9E, .only .po), (0x11AA3, .only .cn), (0x11AB0, .only .lo), (0x11AF9, .only .cn),
  (0x11B00, .only .po), (0x11B0A, .only .cn), (0x11B60, .only .mn), (0x11B61, .only .mc),
  (0x11B62, .only .mn), (0x11B65, .only .mc), (0x11B66, .only .mn), (0x11B67, .only .mc),
  (0x11B68, .only .cn), (0x11BC0, .only .lo), (0x11BE1, .only .po), (0x11BE2, .only .cn),
  (0x11BF0, .only .nd), (0x11BFA, .only .cn), (0x11C00, .only .lo), (0x11C09, .only .cn),
  (0x11C0A, .only .lo), (0x11C2F, .only .mc), (0x11C30, .only .mn), (0x11C37, .only .cn),
  (0x11C38, .only .mn), (0x11C3E, .only .mc), (0x11C3F, .only .mn), (0x11C40, .only .lo),
  (0x11C41, .only .po), (0x11C46, .only .cn), (0x11C50, .only .nd), (0x11C5A, .only .no),
  (0x11C6D, .only .cn), (0x11C70, .only .po), (0x11C72, .only .lo), (0x11C90, .only .cn),
  (0x11C92, .only .mn), (0x11CA8, .only .cn), (0x11CA9, .only .mc), (0x11CAA, .only .mn),
  (0x11CB1, .only .mc), (0x11CB2, .only .mn), (0x11CB4, .only .mc), (0x11CB5, .only .mn),
  (0x11CB7, .only .cn), (0x11D00, .only .lo), (0x11D07, .only .cn), (0x11D08, .only .lo),
  (0x11D0A, .only .cn), (0x11D0B, .only .lo), (0x11D31, .only .mn), (0x11D37, .only .cn),
  (0x11D3A, .only .mn), (0x11D3B, .only .cn), (0x11D3C, .only .mn), (0x11D3E, .only .cn),
  (0x11D3F, .only .mn), (0x11D46, .only .lo), (0x11D47, .only .mn), (0x11D48, .only .cn),
  (0x11D50, .only .nd), (0x11D5A, .only .cn), (0x11D60, .only .lo), (0x11D66, .only .cn),
  (0x11D67, .only .lo), (0x11D69, .only .cn), (0x11D6A, .only .lo), (0x11D8A, .only .mc),
  (0x11D8F, .only .cn), (0x11D90, .only .mn), (0x11D92, .only .cn), (0x11D93, .only .mc),
  (0x11D95, .only .mn), (0x11D96, .only .mc), (0x11D97, .only .mn), (0x11D98, .only .lo),
  (0x11D99, .only .cn), (0x11DA0, .only .nd), (0x11DAA, .only .cn), (0x11DB0, .only .lo),
  (0x11DD9, .only .lm), (0x11DDA, .only .lo), (0x11DDC, .only .cn), (0x11DE0, .only .nd)]

/-- The runs from U+11DEA to U+1D2DF. -/
def runsFrom11DEATo1D2DF : List (Nat × Run) := [
  (0x11DEA, .only .cn), (0x11EE0, .only .lo), (0x11EF3, .only .mn), (0x11EF5, .only .mc),
  (0x11EF7, .only .po), (0x11EF9, .only .cn), (0x11F00, .only .mn), (0x11F02, .only .lo),
  (0x11F03, .only .mc), (0x11F04, .only .lo), (0x11F11, .only .cn), (0x11F12, .only .lo),
  (0x11F34, .only .mc), (0x11F36, .only .mn), (0x11F3B, .only .cn), (0x11F3E, .only .mc),
  (0x11F40, .only .mn), (0x11F41, .only .mc), (0x11F42, .only .mn), (0x11F43, .only .po),
  (0x11F50, .only .nd), (0x11F5A, .only .mn), (0x11F5B, .only .cn), (0x11FB0, .only .lo),
  (0x11FB1, .only .cn), (0x11FC0, .only .no), (0x11FD5, .only .so), (0x11FDD, .only .sc),
  (0x11FE1, .only .so), (0x11FF2, .only .cn), (0x11FFF, .only .po), (0x12000, .only .lo),
  (0x1239A, .only .cn), (0x12400, .only .nl), (0x1246F, .only .cn), (0x12470, .only .po),
  (0x12475, .only .cn), (0x12480, .only .lo), (0x12544, .only .cn), (0x12F90, .only .lo),
  (0x12FF1, .only .po), (0x12FF3, .only .cn), (0x13000, .only .lo), (0x13430, .only .cf),
  (0x13440, .only .mn), (0x13441, .only .lo), (0x13447, .only .mn), (0x13456, .only .cn),
  (0x13460, .only .lo), (0x143FB, .only .cn), (0x14400, .only .lo), (0x14647, .only .cn),
  (0x16100, .only .lo), (0x1611E, .only .mn), (0x1612A, .only .mc), (0x1612D, .only .mn),
  (0x16130, .only .nd), (0x1613A, .only .cn), (0x16800, .only .lo), (0x16A39, .only .cn),
  (0x16A40, .only .lo), (0x16A5F, .only .cn), (0x16A60, .only .nd), (0x16A6A, .only .cn),
  (0x16A6E, .only .po), (0x16A70, .only .lo), (0x16ABF, .only .cn), (0x16AC0, .only .nd),
  (0x16ACA, .only .cn), (0x16AD0, .only .lo), (0x16AEE, .only .cn), (0x16AF0, .only .mn),
  (0x16AF5, .only .po), (0x16AF6, .only .cn), (0x16B00, .only .lo), (0x16B30, .only .mn),
  (0x16B37, .only .po), (0x16B3C, .only .so), (0x16B40, .only .lm), (0x16B44, .only .po),
  (0x16B45, .only .so), (0x16B46, .only .cn), (0x16B50, .only .nd), (0x16B5A, .only .cn),
  (0x16B5B, .only .no), (0x16B62, .only .cn), (0x16B63, .only .lo), (0x16B78, .only .cn),
  (0x16B7D, .only .lo), (0x16B90, .only .cn), (0x16D40, .only .lm), (0x16D43, .only .lo),
  (0x16D6B, .only .lm), (0x16D6D, .only .po), (0x16D70, .only .nd), (0x16D7A, .only .cn),
  (0x16E40, .only .lu), (0x16E60, .only .ll), (0x16E80, .only .no), (0x16E97, .only .po),
  (0x16E9B, .only .cn), (0x16EA0, .only .lu), (0x16EB9, .only .cn), (0x16EBB, .only .ll),
  (0x16ED4, .only .cn), (0x16F00, .only .lo), (0x16F4B, .only .cn), (0x16F4F, .only .mn),
  (0x16F50, .only .lo), (0x16F51, .only .mc), (0x16F88, .only .cn), (0x16F8F, .only .mn),
  (0x16F93, .only .lm), (0x16FA0, .only .cn), (0x16FE0, .only .lm), (0x16FE2, .only .po),
  (0x16FE3, .only .lm), (0x16FE4, .only .mn), (0x16FE5, .only .cn), (0x16FF0, .only .mc),
  (0x16FF2, .only .lm), (0x16FF4, .only .nl), (0x16FF7, .only .cn), (0x17000, .only .lo),
  (0x18CD6, .only .cn), (0x18CFF, .only .lo), (0x18D1F, .only .cn), (0x18D80, .only .lo),
  (0x18DF3, .only .cn), (0x1AFF0, .only .lm), (0x1AFF4, .only .cn), (0x1AFF5, .only .lm),
  (0x1AFFC, .only .cn), (0x1AFFD, .only .lm), (0x1AFFF, .only .cn), (0x1B000, .only .lo),
  (0x1B123, .only .cn), (0x1B132, .only .lo), (0x1B133, .only .cn), (0x1B150, .only .lo),
  (0x1B153, .only .cn), (0x1B155, .only .lo), (0x1B156, .only .cn), (0x1B164, .only .lo),
  (0x1B168, .only .cn), (0x1B170, .only .lo), (0x1B2FC, .only .cn), (0x1BC00, .only .lo),
  (0x1BC6B, .only .cn), (0x1BC70, .only .lo), (0x1BC7D, .only .cn), (0x1BC80, .only .lo),
  (0x1BC89, .only .cn), (0x1BC90, .only .lo), (0x1BC9A, .only .cn), (0x1BC9C, .only .so),
  (0x1BC9D, .only .mn), (0x1BC9F, .only .po), (0x1BCA0, .only .cf), (0x1BCA4, .only .cn),
  (0x1CC00, .only .so), (0x1CCF0, .only .nd), (0x1CCFA, .only .so), (0x1CCFD, .only .cn),
  (0x1CD00, .only .so), (0x1CEB4, .only .cn), (0x1CEBA, .only .so), (0x1CED1, .only .cn),
  (0x1CEE0, .only .so), (0x1CEF0, .only .sm), (0x1CEF1, .only .cn), (0x1CF00, .only .mn),
  (0x1CF2E, .only .cn), (0x1CF30, .only .mn), (0x1CF47, .only .cn), (0x1CF50, .only .so),
  (0x1CFC4, .only .cn), (0x1D000, .only .so), (0x1D0F6, .only .cn), (0x1D100, .only .so),
  (0x1D127, .only .cn), (0x1D129, .only .so), (0x1D165, .only .mc), (0x1D167, .only .mn),
  (0x1D16A, .only .so), (0x1D16D, .only .mc), (0x1D173, .only .cf), (0x1D17B, .only .mn),
  (0x1D183, .only .so), (0x1D185, .only .mn), (0x1D18C, .only .so), (0x1D1AA, .only .mn),
  (0x1D1AE, .only .so), (0x1D1EB, .only .cn), (0x1D200, .only .so), (0x1D242, .only .mn),
  (0x1D245, .only .so), (0x1D246, .only .cn), (0x1D2C0, .only .no), (0x1D2D4, .only .cn)]

/-- The runs from U+1D2E0 to U+1ECAC. -/
def runsFrom1D2E0To1ECAC : List (Nat × Run) := [
  (0x1D2E0, .only .no), (0x1D2F4, .only .cn), (0x1D300, .only .so), (0x1D357, .only .cn),
  (0x1D360, .only .no), (0x1D379, .only .cn), (0x1D400, .only .lu), (0x1D41A, .only .ll),
  (0x1D434, .only .lu), (0x1D44E, .only .ll), (0x1D455, .only .cn), (0x1D456, .only .ll),
  (0x1D468, .only .lu), (0x1D482, .only .ll), (0x1D49C, .only .lu), (0x1D49D, .only .cn),
  (0x1D49E, .only .lu), (0x1D4A0, .only .cn), (0x1D4A2, .only .lu), (0x1D4A3, .only .cn),
  (0x1D4A5, .only .lu), (0x1D4A7, .only .cn), (0x1D4A9, .only .lu), (0x1D4AD, .only .cn),
  (0x1D4AE, .only .lu), (0x1D4B6, .only .ll), (0x1D4BA, .only .cn), (0x1D4BB, .only .ll),
  (0x1D4BC, .only .cn), (0x1D4BD, .only .ll), (0x1D4C4, .only .cn), (0x1D4C5, .only .ll),
  (0x1D4D0, .only .lu), (0x1D4EA, .only .ll), (0x1D504, .only .lu), (0x1D506, .only .cn),
  (0x1D507, .only .lu), (0x1D50B, .only .cn), (0x1D50D, .only .lu), (0x1D515, .only .cn),
  (0x1D516, .only .lu), (0x1D51D, .only .cn), (0x1D51E, .only .ll), (0x1D538, .only .lu),
  (0x1D53A, .only .cn), (0x1D53B, .only .lu), (0x1D53F, .only .cn), (0x1D540, .only .lu),
  (0x1D545, .only .cn), (0x1D546, .only .lu), (0x1D547, .only .cn), (0x1D54A, .only .lu),
  (0x1D551, .only .cn), (0x1D552, .only .ll), (0x1D56C, .only .lu), (0x1D586, .only .ll),
  (0x1D5A0, .only .lu), (0x1D5BA, .only .ll), (0x1D5D4, .only .lu), (0x1D5EE, .only .ll),
  (0x1D608, .only .lu), (0x1D622, .only .ll), (0x1D63C, .only .lu), (0x1D656, .only .ll),
  (0x1D670, .only .lu), (0x1D68A, .only .ll), (0x1D6A6, .only .cn), (0x1D6A8, .only .lu),
  (0x1D6C1, .only .sm), (0x1D6C2, .only .ll), (0x1D6DB, .only .sm), (0x1D6DC, .only .ll),
  (0x1D6E2, .only .lu), (0x1D6FB, .only .sm), (0x1D6FC, .only .ll), (0x1D715, .only .sm),
  (0x1D716, .only .ll), (0x1D71C, .only .lu), (0x1D735, .only .sm), (0x1D736, .only .ll),
  (0x1D74F, .only .sm), (0x1D750, .only .ll), (0x1D756, .only .lu), (0x1D76F, .only .sm),
  (0x1D770, .only .ll), (0x1D789, .only .sm), (0x1D78A, .only .ll), (0x1D790, .only .lu),
  (0x1D7A9, .only .sm), (0x1D7AA, .only .ll), (0x1D7C3, .only .sm), (0x1D7C4, .only .ll),
  (0x1D7CA, .only .lu), (0x1D7CB, .only .ll), (0x1D7CC, .only .cn), (0x1D7CE, .only .nd),
  (0x1D800, .only .so), (0x1DA00, .only .mn), (0x1DA37, .only .so), (0x1DA3B, .only .mn),
  (0x1DA6D, .only .so), (0x1DA75, .only .mn), (0x1DA76, .only .so), (0x1DA84, .only .mn),
  (0x1DA85, .only .so), (0x1DA87, .only .po), (0x1DA8C, .only .cn), (0x1DA9B, .only .mn),
  (0x1DAA0, .only .cn), (0x1DAA1, .only .mn), (0x1DAB0, .only .cn), (0x1DF00, .only .ll),
  (0x1DF0A, .only .lo), (0x1DF0B, .only .ll), (0x1DF1F, .only .cn), (0x1DF25, .only .ll),
  (0x1DF2B, .only .cn), (0x1E000, .only .mn), (0x1E007, .only .cn), (0x1E008, .only .mn),
  (0x1E019, .only .cn), (0x1E01B, .only .mn), (0x1E022, .only .cn), (0x1E023, .only .mn),
  (0x1E025, .only .cn), (0x1E026, .only .mn), (0x1E02B, .only .cn), (0x1E030, .only .lm),
  (0x1E06E, .only .cn), (0x1E08F, .only .mn), (0x1E090, .only .cn), (0x1E100, .only .lo),
  (0x1E12D, .only .cn), (0x1E130, .only .mn), (0x1E137, .only .lm), (0x1E13E, .only .cn),
  (0x1E140, .only .nd), (0x1E14A, .only .cn), (0x1E14E, .only .lo), (0x1E14F, .only .so),
  (0x1E150, .only .cn), (0x1E290, .only .lo), (0x1E2AE, .only .mn), (0x1E2AF, .only .cn),
  (0x1E2C0, .only .lo), (0x1E2EC, .only .mn), (0x1E2F0, .only .nd), (0x1E2FA, .only .cn),
  (0x1E2FF, .only .sc), (0x1E300, .only .cn), (0x1E4D0, .only .lo), (0x1E4EB, .only .lm),
  (0x1E4EC, .only .mn), (0x1E4F0, .only .nd), (0x1E4FA, .only .cn), (0x1E5D0, .only .lo),
  (0x1E5EE, .only .mn), (0x1E5F0, .only .lo), (0x1E5F1, .only .nd), (0x1E5FB, .only .cn),
  (0x1E5FF, .only .po), (0x1E600, .only .cn), (0x1E6C0, .only .lo), (0x1E6DF, .only .cn),
  (0x1E6E0, .only .lo), (0x1E6E3, .only .mn), (0x1E6E4, .only .lo), (0x1E6E6, .only .mn),
  (0x1E6E7, .only .lo), (0x1E6EE, .only .mn), (0x1E6F0, .only .lo), (0x1E6F5, .only .mn),
  (0x1E6F6, .only .cn), (0x1E6FE, .only .lo), (0x1E6FF, .only .lm), (0x1E700, .only .cn),
  (0x1E7E0, .only .lo), (0x1E7E7, .only .cn), (0x1E7E8, .only .lo), (0x1E7EC, .only .cn),
  (0x1E7ED, .only .lo), (0x1E7EF, .only .cn), (0x1E7F0, .only .lo), (0x1E7FF, .only .cn),
  (0x1E800, .only .lo), (0x1E8C5, .only .cn), (0x1E8C7, .only .no), (0x1E8D0, .only .mn),
  (0x1E8D7, .only .cn), (0x1E900, .only .lu), (0x1E922, .only .ll), (0x1E944, .only .mn),
  (0x1E94B, .only .lm), (0x1E94C, .only .cn), (0x1E950, .only .nd), (0x1E95A, .only .cn),
  (0x1E95E, .only .po), (0x1E960, .only .cn), (0x1EC71, .only .no), (0x1ECAC, .only .so)]

/-- The runs from U+1ECAD to U+10FFFF. -/
def runsFrom1ECADTo10FFFF : List (Nat × Run) := [
  (0x1ECAD, .only .no), (0x1ECB0, .only .sc), (0x1ECB1, .only .no), (0x1ECB5, .only .cn),
  (0x1ED01, .only .no), (0x1ED2E, .only .so), (0x1ED2F, .only .no), (0x1ED3E, .only .cn),
  (0x1EE00, .only .lo), (0x1EE04, .only .cn), (0x1EE05, .only .lo), (0x1EE20, .only .cn),
  (0x1EE21, .only .lo), (0x1EE23, .only .cn), (0x1EE24, .only .lo), (0x1EE25, .only .cn),
  (0x1EE27, .only .lo), (0x1EE28, .only .cn), (0x1EE29, .only .lo), (0x1EE33, .only .cn),
  (0x1EE34, .only .lo), (0x1EE38, .only .cn), (0x1EE39, .only .lo), (0x1EE3A, .only .cn),
  (0x1EE3B, .only .lo), (0x1EE3C, .only .cn), (0x1EE42, .only .lo), (0x1EE43, .only .cn),
  (0x1EE47, .only .lo), (0x1EE48, .only .cn), (0x1EE49, .only .lo), (0x1EE4A, .only .cn),
  (0x1EE4B, .only .lo), (0x1EE4C, .only .cn), (0x1EE4D, .only .lo), (0x1EE50, .only .cn),
  (0x1EE51, .only .lo), (0x1EE53, .only .cn), (0x1EE54, .only .lo), (0x1EE55, .only .cn),
  (0x1EE57, .only .lo), (0x1EE58, .only .cn), (0x1EE59, .only .lo), (0x1EE5A, .only .cn),
  (0x1EE5B, .only .lo), (0x1EE5C, .only .cn), (0x1EE5D, .only .lo), (0x1EE5E, .only .cn),
  (0x1EE5F, .only .lo), (0x1EE60, .only .cn), (0x1EE61, .only .lo), (0x1EE63, .only .cn),
  (0x1EE64, .only .lo), (0x1EE65, .only .cn), (0x1EE67, .only .lo), (0x1EE6B, .only .cn),
  (0x1EE6C, .only .lo), (0x1EE73, .only .cn), (0x1EE74, .only .lo), (0x1EE78, .only .cn),
  (0x1EE79, .only .lo), (0x1EE7D, .only .cn), (0x1EE7E, .only .lo), (0x1EE7F, .only .cn),
  (0x1EE80, .only .lo), (0x1EE8A, .only .cn), (0x1EE8B, .only .lo), (0x1EE9C, .only .cn),
  (0x1EEA1, .only .lo), (0x1EEA4, .only .cn), (0x1EEA5, .only .lo), (0x1EEAA, .only .cn),
  (0x1EEAB, .only .lo), (0x1EEBC, .only .cn), (0x1EEF0, .only .sm), (0x1EEF2, .only .cn),
  (0x1F000, .only .so), (0x1F02C, .only .cn), (0x1F030, .only .so), (0x1F094, .only .cn),
  (0x1F0A0, .only .so), (0x1F0AF, .only .cn), (0x1F0B1, .only .so), (0x1F0C0, .only .cn),
  (0x1F0C1, .only .so), (0x1F0D0, .only .cn), (0x1F0D1, .only .so), (0x1F0F6, .only .cn),
  (0x1F100, .only .no), (0x1F10D, .only .so), (0x1F1AE, .only .cn), (0x1F1E6, .only .so),
  (0x1F203, .only .cn), (0x1F210, .only .so), (0x1F23C, .only .cn), (0x1F240, .only .so),
  (0x1F249, .only .cn), (0x1F250, .only .so), (0x1F252, .only .cn), (0x1F260, .only .so),
  (0x1F266, .only .cn), (0x1F300, .only .so), (0x1F3FB, .only .sk), (0x1F400, .only .so),
  (0x1F6D9, .only .cn), (0x1F6DC, .only .so), (0x1F6ED, .only .cn), (0x1F6F0, .only .so),
  (0x1F6FD, .only .cn), (0x1F700, .only .so), (0x1F7DA, .only .cn), (0x1F7E0, .only .so),
  (0x1F7EC, .only .cn), (0x1F7F0, .only .so), (0x1F7F1, .only .cn), (0x1F800, .only .so),
  (0x1F80C, .only .cn), (0x1F810, .only .so), (0x1F848, .only .cn), (0x1F850, .only .so),
  (0x1F85A, .only .cn), (0x1F860, .only .so), (0x1F888, .only .cn), (0x1F890, .only .so),
  (0x1F8AE, .only .cn), (0x1F8B0, .only .so), (0x1F8BC, .only .cn), (0x1F8C0, .only .so),
  (0x1F8C2, .only .cn), (0x1F8D0, .only .sm), (0x1F8D9, .only .cn), (0x1F900, .only .so),
  (0x1FA58, .only .cn), (0x1FA60, .only .so), (0x1FA6E, .only .cn), (0x1FA70, .only .so),
  (0x1FA7D, .only .cn), (0x1FA80, .only .so), (0x1FA8B, .only .cn), (0x1FA8E, .only .so),
  (0x1FAC7, .only .cn), (0x1FAC8, .only .so), (0x1FAC9, .only .cn), (0x1FACD, .only .so),
  (0x1FADD, .only .cn), (0x1FADF, .only .so), (0x1FAEB, .only .cn), (0x1FAEF, .only .so),
  (0x1FAF9, .only .cn), (0x1FB00, .only .so), (0x1FB93, .only .cn), (0x1FB94, .only .so),
  (0x1FBF0, .only .nd), (0x1FBFA, .only .so), (0x1FBFB, .only .cn), (0x20000, .only .lo),
  (0x2A6E0, .only .cn), (0x2A700, .only .lo), (0x2B81E, .only .cn), (0x2B820, .only .lo),
  (0x2CEAE, .only .cn), (0x2CEB0, .only .lo), (0x2EBE1, .only .cn), (0x2EBF0, .only .lo),
  (0x2EE5E, .only .cn), (0x2F800, .only .lo), (0x2FA1E, .only .cn), (0x30000, .only .lo),
  (0x3134B, .only .cn), (0x31350, .only .lo), (0x3347A, .only .cn), (0xE0001, .only .cf),
  (0xE0002, .only .cn), (0xE0020, .only .cf), (0xE0080, .only .cn), (0xE0100, .only .mn),
  (0xE01F0, .only .cn), (0xF0000, .only .co), (0xFFFFE, .only .cn), (0x100000, .only .co),
  (0x10FFFE, .only .cn)]

/-- The whole table, in ascending order of the first code point. -/
def runs : List (Nat × Run) :=
  runsFrom0000To0481 ++ runsFrom0482To0A37 ++ runsFrom0A38To0CCD ++ runsFrom0CCETo1249 ++
  runsFrom124ATo1BA1 ++ runsFrom1BA2To2115 ++ runsFrom2116To2D9F ++ runsFrom2DA0ToA78A ++
  runsFromA78BToFB3E ++ runsFromFB3FTo104AF ++ runsFrom104B0To11072 ++ runsFrom11073To115FF ++
  runsFrom11600To11DE9 ++ runsFrom11DEATo1D2DF ++ runsFrom1D2E0To1ECAC ++ runsFrom1ECADTo10FFFF

/-- The category of `code` within a run that begins at `first`. -/
def Run.at (first code : Nat) : Run → Category
  | .only category => category
  | .pairs => if (code - first) % 2 = 0 then .lu else .ll

/-- The category of `code`, given that of the runs passed so far. -/
def find (code : Nat) (passed : Category) : List (Nat × Run) → Category
  | [] => passed
  | (first, run) :: later => if code < first then passed else find code (run.at first code) later

/-- The general category of a character. -/
def of (c : Char) : Category :=
  find c.toNat .cn runs

end Category

end CommandLink
