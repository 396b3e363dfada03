import Bookmarks.Text.Ranges
/-!
The code point data behind the check of an internationalised host label: which code points a
label may hold at all, and the properties of those code points that the rules of the check
consult (bidirectional class, being a combining mark, canonical combining class, canonical
composition, the scripts some contextual rules name, and joining type).

Only code points a label may hold are ever looked up in the property tables, so a property
run may stretch over code points no label holds; that keeps the tables short.
-/
namespace Bookmarks.Url.Idna

set_option maxRecDepth 20000 in
/-- How a label may hold a code point, as runs `(first, last, kind)`: kind 0 anywhere, 1 only
in a joining context, 2 only in another context. A code point outside every run may not
stand in a label. -/
def labelClasses : Text.ValueTable := #[
    (0x2D, 0x2D, 0), (0x30, 0x39, 0), (0x61, 0x7A, 0), (0xB7, 0xB7, 2),
    (0xDF, 0xF6, 0), (0xF8, 0xFF, 0), (0x101, 0x101, 0), (0x103, 0x103, 0),
    (0x105, 0x105, 0), (0x107, 0x107, 0), (0x109, 0x109, 0), (0x10B, 0x10B, 0),
    (0x10D, 0x10D, 0), (0x10F, 0x10F, 0), (0x111, 0x111, 0), (0x113, 0x113, 0),
    (0x115, 0x115, 0), (0x117, 0x117, 0), (0x119, 0x119, 0), (0x11B, 0x11B, 0),
    (0x11D, 0x11D, 0), (0x11F, 0x11F, 0), (0x121, 0x121, 0), (0x123, 0x123, 0),
    (0x125, 0x125, 0), (0x127, 0x127, 0), (0x129, 0x129, 0), (0x12B, 0x12B, 0),
    (0x12D, 0x12D, 0), (0x12F, 0x12F, 0), (0x131, 0x131, 0), (0x135, 0x135, 0),
    (0x137, 0x138, 0), (0x13A, 0x13A, 0), (0x13C, 0x13C, 0), (0x13E, 0x13E, 0),
    (0x142, 0x142, 0), (0x144, 0x144, 0), (0x146, 0x146, 0), (0x148, 0x148, 0),
    (0x14B, 0x14B, 0), (0x14D, 0x14D, 0), (0x14F, 0x14F, 0), (0x151, 0x151, 0),
    (0x153, 0x153, 0), (0x155, 0x155, 0), (0x157, 0x157, 0), (0x159, 0x159, 0),
    (0x15B, 0x15B, 0), (0x15D, 0x15D, 0), (0x15F, 0x15F, 0), (0x161, 0x161, 0),
    (0x163, 0x163, 0), (0x165, 0x165, 0), (0x167, 0x167, 0), (0x169, 0x169, 0),
    (0x16B, 0x16B, 0), (0x16D, 0x16D, 0), (0x16F, 0x16F, 0), (0x171, 0x171, 0),
    (0x173, 0x173, 0), (0x175, 0x175, 0), (0x177, 0x177, 0), (0x17A, 0x17A, 0),
    (0x17C, 0x17C, 0), (0x17E, 0x17E, 0), (0x180, 0x180, 0), (0x183, 0x183, 0),
    (0x185, 0x185, 0), (0x188, 0x188, 0), (0x18C, 0x18D, 0), (0x192, 0x192, 0),
    (0x195, 0x195, 0), (0x199, 0x19B, 0), (0x19E, 0x19E, 0), (0x1A1, 0x1A1, 0),
    (0x1A3, 0x1A3, 0), (0x1A5, 0x1A5, 0), (0x1A8, 0x1A8, 0), (0x1AA, 0x1AB, 0),
    (0x1AD, 0x1AD, 0), (0x1B0, 0x1B0, 0), (0x1B4, 0x1B4, 0), (0x1B6, 0x1B6, 0),
    (0x1B9, 0x1BB, 0), (0x1BD, 0x1C3, 0), (0x1CE, 0x1CE, 0), (0x1D0, 0x1D0, 0),
    (0x1D2, 0x1D2, 0), (0x1D4, 0x1D4, 0), (0x1D6, 0x1D6, 0), (0x1D8, 0x1D8, 0),
    (0x1DA, 0x1DA, 0), (0x1DC, 0x1DD, 0), (0x1DF, 0x1DF, 0), (0x1E1, 0x1E1, 0),
    (0x1E3, 0x1E3, 0), (0x1E5, 0x1E5, 0), (0x1E7, 0x1E7, 0), (0x1E9, 0x1E9, 0),
    (0x1EB, 0x1EB, 0), (0x1ED, 0x1ED, 0), (0x1EF, 0x1F0, 0), (0x1F5, 0x1F5, 0),
    (0x1F9, 0x1F9, 0), (0x1FB, 0x1FB, 0), (0x1FD, 0x1FD, 0), (0x1FF, 0x1FF, 0),
    (0x201, 0x201, 0), (0x203, 0x203, 0), (0x205, 0x205, 0), (0x207, 0x207, 0),
    (0x209, 0x209, 0), (0x20B, 0x20B, 0), (0x20D, 0x20D, 0), (0x20F, 0x20F, 0),
    (0x211, 0x211, 0), (0x213, 0x213, 0), (0x215, 0x215, 0), (0x217, 0x217, 0),
    (0x219, 0x219, 0), (0x21B, 0x21B, 0), (0x21D, 0x21D, 0), (0x21F, 0x21F, 0),
    (0x221, 0x221, 0), (0x223, 0x223, 0), (0x225, 0x225, 0), (0x227, 0x227, 0),
    (0x229, 0x229, 0), (0x22B, 0x22B, 0), (0x22D, 0x22D, 0), (0x22F, 0x22F, 0),
    (0x231, 0x231, 0), (0x233, 0x239, 0), (0x23C, 0x23C, 0), (0x23F, 0x240, 0),
    (0x242, 0x242, 0), (0x247, 0x247, 0), (0x249, 0x249, 0), (0x24B, 0x24B, 0),
    (0x24D, 0x24D, 0), (0x24F, 0x2AF, 0), (0x2B9, 0x2C1, 0), (0x2C6, 0x2D1, 0),
    (0x2EC, 0x2EC, 0), (0x2EE, 0x2EE, 0), (0x300, 0x33F, 0), (0x342, 0x342, 0),
    (0x346, 0x34E, 0), (0x350, 0x36F, 0), (0x371, 0x371, 0), (0x373, 0x373, 0),
    (0x375, 0x375, 2), (0x377, 0x377, 0), (0x37B, 0x37D, 0), (0x390, 0x390, 0),
    (0x3AC, 0x3CE, 0), (0x3D7, 0x3D7, 0), (0x3D9, 0x3D9, 0), (0x3DB, 0x3DB, 0),
    (0x3DD, 0x3DD, 0), (0x3DF, 0x3DF, 0), (0x3E1, 0x3E1, 0), (0x3E3, 0x3E3, 0),
    (0x3E5, 0x3E5, 0), (0x3E7, 0x3E7, 0), (0x3E9, 0x3E9, 0), (0x3EB, 0x3EB, 0),
    (0x3ED, 0x3ED, 0), (0x3EF, 0x3EF, 0), (0x3F3, 0x3F3, 0), (0x3F8, 0x3F8, 0),
    (0x3FB, 0x3FC, 0), (0x430, 0x45F, 0), (0x461, 0x461, 0), (0x463, 0x463, 0),
    (0x465, 0x465, 0), (0x467, 0x467, 0), (0x469, 0x469, 0), (0x46B, 0x46B, 0),
    (0x46D, 0x46D, 0), (0x46F, 0x46F, 0), (0x471, 0x471, 0), (0x473, 0x473, 0),
    (0x475, 0x475, 0), (0x477, 0x477, 0), (0x479, 0x479, 0), (0x47B, 0x47B, 0),
    (0x47D, 0x47D, 0), (0x47F, 0x47F, 0), (0x481, 0x481, 0), (0x483, 0x487, 0),
    (0x48B, 0x48B, 0), (0x48D, 0x48D, 0), (0x48F, 0x48F, 0), (0x491, 0x491, 0),
    (0x493, 0x493, 0), (0x495, 0x495, 0), (0x497, 0x497, 0), (0x499, 0x499, 0),
    (0x49B, 0x49B, 0), (0x49D, 0x49D, 0), (0x49F, 0x49F, 0), (0x4A1, 0x4A1, 0),
    (0x4A3, 0x4A3, 0), (0x4A5, 0x4A5, 0), (0x4A7, 0x4A7, 0), (0x4A9, 0x4A9, 0),
    (0x4AB, 0x4AB, 0), (0x4AD, 0x4AD, 0), (0x4AF, 0x4AF, 0), (0x4B1, 0x4B1, 0),
    (0x4B3, 0x4B3, 0), (0x4B5, 0x4B5, 0), (0x4B7, 0x4B7, 0), (0x4B9, 0x4B9, 0),
    (0x4BB, 0x4BB, 0), (0x4BD, 0x4BD, 0), (0x4BF, 0x4BF, 0), (0x4C2, 0x4C2, 0),
    (0x4C4, 0x4C4, 0), (0x4C6, 0x4C6, 0), (0x4C8, 0x4C8, 0), (0x4CA, 0x4CA, 0),
    (0x4CC, 0x4CC, 0), (0x4CE, 0x4CF, 0), (0x4D1, 0x4D1, 0), (0x4D3, 0x4D3, 0),
    (0x4D5, 0x4D5, 0), (0x4D7, 0x4D7, 0), (0x4D9, 0x4D9, 0), (0x4DB, 0x4DB, 0),
    (0x4DD, 0x4DD, 0), (0x4DF, 0x4DF, 0), (0x4E1, 0x4E1, 0), (0x4E3, 0x4E3, 0),
    (0x4E5, 0x4E5, 0), (0x4E7, 0x4E7, 0), (0x4E9, 0x4E9, 0), (0x4EB, 0x4EB, 0),
    (0x4ED, 0x4ED, 0), (0x4EF, 0x4EF, 0), (0x4F1, 0x4F1, 0), (0x4F3, 0x4F3, 0),
    (0x4F5, 0x4F5, 0), (0x4F7, 0x4F7, 0), (0x4F9, 0x4F9, 0), (0x4FB, 0x4FB, 0),
    (0x4FD, 0x4FD, 0), (0x4FF, 0x4FF, 0), (0x501, 0x501, 0), (0x503, 0x503, 0),
    (0x505, 0x505, 0), (0x507, 0x507, 0), (0x509, 0x509, 0), (0x50B, 0x50B, 0),
    (0x50D, 0x50D, 0), (0x50F, 0x50F, 0), (0x511, 0x511, 0), (0x513, 0x513, 0),
    (0x515, 0x515, 0), (0x517, 0x517, 0), (0x519, 0x519, 0), (0x51B, 0x51B, 0),
    (0x51D, 0x51D, 0), (0x51F, 0x51F, 0), (0x521, 0x521, 0), (0x523, 0x523, 0),
    (0x525, 0x525, 0), (0x527, 0x527, 0), (0x529, 0x529, 0), (0x52B, 0x52B, 0),
    (0x52D, 0x52D, 0), (0x52F, 0x52F, 0), (0x559, 0x559, 0), (0x560, 0x586, 0),
    (0x588, 0x588, 0), (0x591, 0x5BD, 0), (0x5BF, 0x5BF, 0), (0x5C1, 0x5C2, 0),
    (0x5C4, 0x5C5, 0), (0x5C7, 0x5C7, 0), (0x5D0, 0x5EA, 0), (0x5EF, 0x5F2, 0),
    (0x5F3, 0x5F4, 2), (0x610, 0x61A, 0), (0x620, 0x63F, 0), (0x641, 0x65F, 0),
    (0x660, 0x669, 2), (0x66E, 0x674, 0), (0x679, 0x6D3, 0), (0x6D5, 0x6DC, 0),
    (0x6DF, 0x6E8, 0), (0x6EA, 0x6EF, 0), (0x6F0, 0x6F9, 2), (0x6FA, 0x6FF, 0),
    (0x710, 0x74A, 0), (0x74D, 0x7B1, 0), (0x7C0, 0x7F5, 0), (0x7FD, 0x7FD, 0),
    (0x800, 0x82D, 0), (0x840, 0x85B, 0), (0x860, 0x86A, 0), (0x870, 0x887, 0),
    (0x889, 0x88E, 0), (0x898, 0x8E1, 0), (0x8E3, 0x957, 0), (0x960, 0x963, 0),
    (0x966, 0x96F, 0), (0x971, 0x983, 0), (0x985, 0x98C, 0), (0x98F, 0x990, 0),
    (0x993, 0x9A8, 0), (0x9AA, 0x9B0, 0), (0x9B2, 0x9B2, 0), (0x9B6, 0x9B9, 0),
    (0x9BC, 0x9C4, 0), (0x9C7, 0x9C8, 0), (0x9CB, 0x9CE, 0), (0x9D7, 0x9D7, 0),
    (0x9E0, 0x9E3, 0), (0x9E6, 0x9F1, 0), (0x9FC, 0x9FC, 0), (0x9FE, 0x9FE, 0),
    (0xA01, 0xA03, 0), (0xA05, 0xA0A, 0), (0xA0F, 0xA10, 0), (0xA13, 0xA28, 0),
    (0xA2A, 0xA30, 0), (0xA32, 0xA32, 0), (0xA35, 0xA35, 0), (0xA38, 0xA39, 0),
    (0xA3C, 0xA3C, 0), (0xA3E, 0xA42, 0), (0xA47, 0xA48, 0), (0xA4B, 0xA4D, 0),
    (0xA51, 0xA51, 0), (0xA5C, 0xA5C, 0), (0xA66, 0xA75, 0), (0xA81, 0xA83, 0),
    (0xA85, 0xA8D, 0), (0xA8F, 0xA91, 0), (0xA93, 0xAA8, 0), (0xAAA, 0xAB0, 0),
    (0xAB2, 0xAB3, 0), (0xAB5, 0xAB9, 0), (0xABC, 0xAC5, 0), (0xAC7, 0xAC9, 0),
    (0xACB, 0xACD, 0), (0xAD0, 0xAD0, 0), (0xAE0, 0xAE3, 0), (0xAE6, 0xAEF, 0),
    (0xAF9, 0xAFF, 0), (0xB01, 0xB03, 0), (0xB05, 0xB0C, 0), (0xB0F, 0xB10, 0),
    (0xB13, 0xB28, 0), (0xB2A, 0xB30, 0), (0xB32, 0xB33, 0), (0xB35, 0xB39, 0),
    (0xB3C, 0xB44, 0), (0xB47, 0xB48, 0), (0xB4B, 0xB4D, 0), (0xB55, 0xB57, 0),
    (0xB5F, 0xB63, 0), (0xB66, 0xB6F, 0), (0xB71, 0xB71, 0), (0xB82, 0xB83, 0),
    (0xB85, 0xB8A, 0), (0xB8E, 0xB90, 0), (0xB92, 0xB95, 0), (0xB99, 0xB9A, 0),
    (0xB9C, 0xB9C, 0), (0xB9E, 0xB9F, 0), (0xBA3, 0xBA4, 0), (0xBA8, 0xBAA, 0),
    (0xBAE, 0xBB9, 0), (0xBBE, 0xBC2, 0), (0xBC6, 0xBC8, 0), (0xBCA, 0xBCD, 0),
    (0xBD0, 0xBD0, 0), (0xBD7, 0xBD7, 0), (0xBE6, 0xBEF, 0), (0xC00, 0xC0C, 0),
    (0xC0E, 0xC10, 0), (0xC12, 0xC28, 0), (0xC2A, 0xC39, 0), (0xC3C, 0xC44, 0),
    (0xC46, 0xC48, 0), (0xC4A, 0xC4D, 0), (0xC55, 0xC56, 0), (0xC58, 0xC5A, 0),
    (0xC5D, 0xC5D, 0), (0xC60, 0xC63, 0), (0xC66, 0xC6F, 0), (0xC80, 0xC83, 0),
    (0xC85, 0xC8C, 0), (0xC8E, 0xC90, 0), (0xC92, 0xCA8, 0), (0xCAA, 0xCB3, 0),
    (0xCB5, 0xCB9, 0), (0xCBC, 0xCC4, 0), (0xCC6, 0xCC8, 0), (0xCCA, 0xCCD, 0),
    (0xCD5, 0xCD6, 0), (0xCDD, 0xCDE, 0), (0xCE0, 0xCE3, 0), (0xCE6, 0xCEF, 0),
    (0xCF1, 0xCF2, 0), (0xD00, 0xD0C, 0), (0xD0E, 0xD10, 0), (0xD12, 0xD44, 0),
    (0xD46, 0xD48, 0), (0xD4A, 0xD4E, 0), (0xD54, 0xD57, 0), (0xD5F, 0xD63, 0),
    (0xD66, 0xD6F, 0), (0xD7A, 0xD7F, 0), (0xD81, 0xD83, 0), (0xD85, 0xD96, 0),
    (0xD9A, 0xDB1, 0), (0xDB3, 0xDBB, 0), (0xDBD, 0xDBD, 0), (0xDC0, 0xDC6, 0),
    (0xDCA, 0xDCA, 0), (0xDCF, 0xDD4, 0), (0xDD6, 0xDD6, 0), (0xDD8, 0xDDF, 0),
    (0xDE6, 0xDEF, 0), (0xDF2, 0xDF3, 0), (0xE01, 0xE32, 0), (0xE34, 0xE3A, 0),
    (0xE40, 0xE4E, 0), (0xE50, 0xE59, 0), (0xE81, 0xE82, 0), (0xE84, 0xE84, 0),
    (0xE86, 0xE8A, 0), (0xE8C, 0xEA3, 0), (0xEA5, 0xEA5, 0), (0xEA7, 0xEB2, 0),
    (0xEB4, 0xEBD, 0), (0xEC0, 0xEC4, 0), (0xEC6, 0xEC6, 0), (0xEC8, 0xECD, 0),
    (0xED0, 0xED9, 0), (0xEDE, 0xEDF, 0), (0xF00, 0xF00, 0), (0xF0B, 0xF0B, 0),
    (0xF18, 0xF19, 0), (0xF20, 0xF29, 0), (0xF35, 0xF35, 0), (0xF37, 0xF37, 0),
    (0xF39, 0xF39, 0), (0xF3E, 0xF42, 0), (0xF44, 0xF47, 0), (0xF49, 0xF4C, 0),
    (0xF4E, 0xF51, 0), (0xF53, 0xF56, 0), (0xF58, 0xF5B, 0), (0xF5D, 0xF68, 0),
    (0xF6A, 0xF6C, 0), (0xF71, 0xF72, 0), (0xF74, 0xF74, 0), (0xF7A, 0xF80, 0),
    (0xF82, 0xF84, 0), (0xF86, 0xF92, 0), (0xF94, 0xF97, 0), (0xF99, 0xF9C, 0),
    (0xF9E, 0xFA1, 0), (0xFA3, 0xFA6, 0), (0xFA8, 0xFAB, 0), (0xFAD, 0xFB8, 0),
    (0xFBA, 0xFBC, 0), (0xFC6, 0xFC6, 0), (0x1000, 0x1049, 0), (0x1050, 0x109D, 0),
    (0x10D0, 0x10FA, 0), (0x10FD, 0x10FF, 0), (0x1200, 0x1248, 0), (0x124A, 0x124D, 0),
    (0x1250, 0x1256, 0), (0x1258, 0x1258, 0), (0x125A, 0x125D, 0), (0x1260, 0x1288, 0),
    (0x128A, 0x128D, 0), (0x1290, 0x12B0, 0), (0x12B2, 0x12B5, 0), (0x12B8, 0x12BE, 0),
    (0x12C0, 0x12C0, 0), (0x12C2, 0x12C5, 0), (0x12C8, 0x12D6, 0), (0x12D8, 0x1310, 0),
    (0x1312, 0x1315, 0), (0x1318, 0x135A, 0), (0x135D, 0x135F, 0), (0x1380, 0x138F, 0),
    (0x13A0, 0x13F5, 0), (0x1401, 0x166C, 0), (0x166F, 0x167F, 0), (0x1681, 0x169A, 0),
    (0x16A0, 0x16EA, 0), (0x16F1, 0x16F8, 0), (0x1700, 0x1715, 0), (0x171F, 0x1734, 0),
    (0x1740, 0x1753, 0), (0x1760, 0x176C, 0), (0x176E, 0x1770, 0), (0x1772, 0x1773, 0),
    (0x1780, 0x17B3, 0), (0x17B6, 0x17D3, 0), (0x17D7, 0x17D7, 0), (0x17DC, 0x17DD, 0),
    (0x17E0, 0x17E9, 0), (0x1810, 0x1819, 0), (0x1820, 0x1878, 0), (0x1880, 0x18AA, 0),
    (0x18B0, 0x18F5, 0), (0x1900, 0x191E, 0), (0x1920, 0x192B, 0), (0x1930, 0x193B, 0),
    (0x1946, 0x196D, 0), (0x1970, 0x1974, 0), (0x1980, 0x19AB, 0), (0x19B0, 0x19C9, 0),
    (0x19D0, 0x19D9, 0), (0x1A00, 0x1A1B, 0), (0x1A20, 0x1A5E, 0), (0x1A60, 0x1A7C, 0),
    (0x1A7F, 0x1A89, 0), (0x1A90, 0x1A99, 0), (0x1AA7, 0x1AA7, 0), (0x1AB0, 0x1ABD, 0),
    (0x1ABF, 0x1ACE, 0), (0x1B00, 0x1B4C, 0), (0x1B50, 0x1B59, 0), (0x1B6B, 0x1B73, 0),
    (0x1B80, 0x1BF3, 0), (0x1C00, 0x1C37, 0), (0x1C40, 0x1C49, 0), (0x1C4D, 0x1C7D, 0),
    (0x1CD0, 0x1CD2, 0), (0x1CD4, 0x1CFA, 0), (0x1D00, 0x1D2B, 0), (0x1D2F, 0x1D2F, 0),
    (0x1D3B, 0x1D3B, 0), (0x1D4E, 0x1D4E, 0), (0x1D6B, 0x1D77, 0), (0x1D79, 0x1D9A, 0),
    (0x1DC0, 0x1DFF, 0), (0x1E01, 0x1E01, 0), (0x1E03, 0x1E03, 0), (0x1E05, 0x1E05, 0),
    (0x1E07, 0x1E07, 0), (0x1E09, 0x1E09, 0), (0x1E0B, 0x1E0B, 0), (0x1E0D, 0x1E0D, 0),
    (0x1E0F, 0x1E0F, 0), (0x1E11, 0x1E11, 0), (0x1E13, 0x1E13, 0), (0x1E15, 0x1E15, 0),
    (0x1E17, 0x1E17, 0), (0x1E19, 0x1E19, 0), (0x1E1B, 0x1E1B, 0), (0x1E1D, 0x1E1D, 0),
    (0x1E1F, 0x1E1F, 0), (0x1E21, 0x1E21, 0), (0x1E23, 0x1E23, 0), (0x1E25, 0x1E25, 0),
    (0x1E27, 0x1E27, 0), (0x1E29, 0x1E29, 0), (0x1E2B, 0x1E2B, 0), (0x1E2D, 0x1E2D, 0),
    (0x1E2F, 0x1E2F, 0), (0x1E31, 0x1E31, 0), (0x1E33, 0x1E33, 0), (0x1E35, 0x1E35, 0),
    (0x1E37, 0x1E37, 0), (0x1E39, 0x1E39, 0), (0x1E3B, 0x1E3B, 0), (0x1E3D, 0x1E3D, 0),
    (0x1E3F, 0x1E3F, 0), (0x1E41, 0x1E41, 0), (0x1E43, 0x1E43, 0), (0x1E45, 0x1E45, 0),
    (0x1E47, 0x1E47, 0), (0x1E49, 0x1E49, 0), (0x1E4B, 0x1E4B, 0), (0x1E4D, 0x1E4D, 0),
    (0x1E4F, 0x1E4F, 0), (0x1E51, 0x1E51, 0), (0x1E53, 0x1E53, 0), (0x1E55, 0x1E55, 0),
    (0x1E57, 0x1E57, 0), (0x1E59, 0x1E59, 0), (0x1E5B, 0x1E5B, 0), (0x1E5D, 0x1E5D, 0),
    (0x1E5F, 0x1E5F, 0), (0x1E61, 0x1E61, 0), (0x1E63, 0x1E63, 0), (0x1E65, 0x1E65, 0),
    (0x1E67, 0x1E67, 0), (0x1E69, 0x1E69, 0), (0x1E6B, 0x1E6B, 0), (0x1E6D, 0x1E6D, 0),
    (0x1E6F, 0x1E6F, 0), (0x1E71, 0x1E71, 0), (0x1E73, 0x1E73, 0), (0x1E75, 0x1E75, 0),
    (0x1E77, 0x1E77, 0), (0x1E79, 0x1E79, 0), (0x1E7B, 0x1E7B, 0), (0x1E7D, 0x1E7D, 0),
    (0x1E7F, 0x1E7F, 0), (0x1E81, 0x1E81, 0), (0x1E83, 0x1E83, 0), (0x1E85, 0x1E85, 0),
    (0x1E87, 0x1E87, 0), (0x1E89, 0x1E89, 0), (0x1E8B, 0x1E8B, 0), (0x1E8D, 0x1E8D, 0),
    (0x1E8F, 0x1E8F, 0), (0x1E91, 0x1E91, 0), (0x1E93, 0x1E93, 0), (0x1E95, 0x1E99, 0),
    (0x1E9C, 0x1E9D, 0), (0x1E9F, 0x1E9F, 0), (0x1EA1, 0x1EA1, 0), (0x1EA3, 0x1EA3, 0),
    (0x1EA5, 0x1EA5, 0), (0x1EA7, 0x1EA7, 0), (0x1EA9, 0x1EA9, 0), (0x1EAB, 0x1EAB, 0),
    (0x1EAD, 0x1EAD, 0), (0x1EAF, 0x1EAF, 0), (0x1EB1, 0x1EB1, 0), (0x1EB3, 0x1EB3, 0),
    (0x1EB5, 0x1EB5, 0), (0x1EB7, 0x1EB7, 0), (0x1EB9, 0x1EB9, 0), (0x1EBB, 0x1EBB, 0),
    (0x1EBD, 0x1EBD, 0), (0x1EBF, 0x1EBF, 0), (0x1EC1, 0x1EC1, 0), (0x1EC3, 0x1EC3, 0),
    (0x1EC5, 0x1EC5, 0), (0x1EC7, 0x1EC7, 0), (0x1EC9, 0x1EC9, 0), (0x1ECB, 0x1ECB, 0),
    (0x1ECD, 0x1ECD, 0), (0x1ECF, 0x1ECF, 0), (0x1ED1, 0x1ED1, 0), (0x1ED3, 0x1ED3, 0),
    (0x1ED5, 0x1ED5, 0), (0x1ED7, 0x1ED7, 0), (0x1ED9, 0x1ED9, 0), (0x1EDB, 0x1EDB, 0),
    (0x1EDD, 0x1EDD, 0), (0x1EDF, 0x1EDF, 0), (0x1EE1, 0x1EE1, 0), (0x1EE3, 0x1EE3, 0),
    (0x1EE5, 0x1EE5, 0), (0x1EE7, 0x1EE7, 0), (0x1EE9, 0x1EE9, 0), (0x1EEB, 0x1EEB, 0),
    (0x1EED, 0x1EED, 0), (0x1EEF, 0x1EEF, 0), (0x1EF1, 0x1EF1, 0), (0x1EF3, 0x1EF3, 0),
    (0x1EF5, 0x1EF5, 0), (0x1EF7, 0x1EF7, 0), (0x1EF9, 0x1EF9, 0), (0x1EFB, 0x1EFB, 0),
    (0x1EFD, 0x1EFD, 0), (0x1EFF, 0x1F07, 0), (0x1F10, 0x1F15, 0), (0x1F20, 0x1F27, 0),
    (0x1F30, 0x1F37, 0), (0x1F40, 0x1F45, 0), (0x1F50, 0x1F57, 0), (0x1F60, 0x1F67, 0),
    (0x1F70, 0x1F70, 0), (0x1F72, 0x1F72, 0), (0x1F74, 0x1F74, 0), (0x1F76, 0x1F76, 0),
    (0x1F78, 0x1F78, 0), (0x1F7A, 0x1F7A, 0), (0x1F7C, 0x1F7C, 0), (0x1FB0, 0x1FB1, 0),
    (0x1FB6, 0x1FB6, 0), (0x1FC6, 0x1FC6, 0), (0x1FD0, 0x1FD2, 0), (0x1FD6, 0x1FD7, 0),
    (0x1FE0, 0x1FE2, 0), (0x1FE4, 0x1FE7, 0), (0x1FF6, 0x1FF6, 0), (0x200C, 0x200D, 1),
    (0x214E, 0x214E, 0), (0x2184, 0x2184, 0), (0x2C30, 0x2C5F, 0), (0x2C61, 0x2C61, 0),
    (0x2C65, 0x2C66, 0), (0x2C68, 0x2C68, 0), (0x2C6A, 0x2C6A, 0), (0x2C6C, 0x2C6C, 0),
    (0x2C71, 0x2C71, 0), (0x2C73, 0x2C74, 0), (0x2C76, 0x2C7B, 0), (0x2C81, 0x2C81, 0),
    (0x2C83, 0x2C83, 0), (0x2C85, 0x2C85, 0), (0x2C87, 0x2C87, 0), (0x2C89, 0x2C89, 0),
    (0x2C8B, 0x2C8B, 0), (0x2C8D, 0x2C8D, 0), (0x2C8F, 0x2C8F, 0), (0x2C91, 0x2C91, 0),
    (0x2C93, 0x2C93, 0), (0x2C95, 0x2C95, 0), (0x2C97, 0x2C97, 0), (0x2C99, 0x2C99, 0),
    (0x2C9B, 0x2C9B, 0), (0x2C9D, 0x2C9D, 0), (0x2C9F, 0x2C9F, 0), (0x2CA1, 0x2CA1, 0),
    (0x2CA3, 0x2CA3, 0), (0x2CA5, 0x2CA5, 0), (0x2CA7, 0x2CA7, 0), (0x2CA9, 0x2CA9, 0),
    (0x2CAB, 0x2CAB, 0), (0x2CAD, 0x2CAD, 0), (0x2CAF, 0x2CAF, 0), (0x2CB1, 0x2CB1, 0),
    (0x2CB3, 0x2CB3, 0), (0x2CB5, 0x2CB5, 0), (0x2CB7, 0x2CB7, 0), (0x2CB9, 0x2CB9, 0),
    (0x2CBB, 0x2CBB, 0), (0x2CBD, 0x2CBD, 0), (0x2CBF, 0x2CBF, 0), (0x2CC1, 0x2CC1, 0),
    (0x2CC3, 0x2CC3, 0), (0x2CC5, 0x2CC5, 0), (0x2CC7, 0x2CC7, 0), (0x2CC9, 0x2CC9, 0),
    (0x2CCB, 0x2CCB, 0), (0x2CCD, 0x2CCD, 0), (0x2CCF, 0x2CCF, 0), (0x2CD1, 0x2CD1, 0),
    (0x2CD3, 0x2CD3, 0), (0x2CD5, 0x2CD5, 0), (0x2CD7, 0x2CD7, 0), (0x2CD9, 0x2CD9, 0),
    (0x2CDB, 0x2CDB, 0), (0x2CDD, 0x2CDD, 0), (0x2CDF, 0x2CDF, 0), (0x2CE1, 0x2CE1, 0),
    (0x2CE3, 0x2CE4, 0), (0x2CEC, 0x2CEC, 0), (0x2CEE, 0x2CF1, 0), (0x2CF3, 0x2CF3, 0),
    (0x2D00, 0x2D25, 0), (0x2D27, 0x2D27, 0), (0x2D2D, 0x2D2D, 0), (0x2D30, 0x2D67, 0),
    (0x2D7F, 0x2D96, 0), (0x2DA0, 0x2DA6, 0), (0x2DA8, 0x2DAE, 0), (0x2DB0, 0x2DB6, 0),
    (0x2DB8, 0x2DBE, 0), (0x2DC0, 0x2DC6, 0), (0x2DC8, 0x2DCE, 0), (0x2DD0, 0x2DD6, 0),
    (0x2DD8, 0x2DDE, 0), (0x2DE0, 0x2DFF, 0), (0x2E2F, 0x2E2F, 0), (0x3005, 0x3007, 0),
    (0x302A, 0x302D, 0), (0x303C, 0x303C, 0), (0x3041, 0x3096, 0), (0x3099, 0x309A, 0),
    (0x309D, 0x309E, 0), (0x30A1, 0x30FA, 0), (0x30FB, 0x30FB, 2), (0x30FC, 0x30FE, 0),
    (0x3105, 0x312F, 0), (0x31A0, 0x31BF, 0), (0x31F0, 0x31FF, 0), (0x3400, 0x4DBF, 0),
    (0x4E00, 0xA48C, 0), (0xA4D0, 0xA4FD, 0), (0xA500, 0xA60C, 0), (0xA610, 0xA62B, 0),
    (0xA641, 0xA641, 0), (0xA643, 0xA643, 0), (0xA645, 0xA645, 0), (0xA647, 0xA647, 0),
    (0xA649, 0xA649, 0), (0xA64B, 0xA64B, 0), (0xA64D, 0xA64D, 0), (0xA64F, 0xA64F, 0),
    (0xA651, 0xA651, 0), (0xA653, 0xA653, 0), (0xA655, 0xA655, 0), (0xA657, 0xA657, 0),
    (0xA659, 0xA659, 0), (0xA65B, 0xA65B, 0), (0xA65D, 0xA65D, 0), (0xA65F, 0xA65F, 0),
    (0xA661, 0xA661, 0), (0xA663, 0xA663, 0), (0xA665, 0xA665, 0), (0xA667, 0xA667, 0),
    (0xA669, 0xA669, 0), (0xA66B, 0xA66B, 0), (0xA66D, 0xA66F, 0), (0xA674, 0xA67D, 0),
    (0xA67F, 0xA67F, 0), (0xA681, 0xA681, 0), (0xA683, 0xA683, 0), (0xA685, 0xA685, 0),
    (0xA687, 0xA687, 0), (0xA689, 0xA689, 0), (0xA68B, 0xA68B, 0), (0xA68D, 0xA68D, 0),
    (0xA68F, 0xA68F, 0), (0xA691, 0xA691, 0), (0xA693, 0xA693, 0), (0xA695, 0xA695, 0),
    (0xA697, 0xA697, 0), (0xA699, 0xA699, 0), (0xA69B, 0xA69B, 0), (0xA69E, 0xA6E5, 0),
    (0xA6F0, 0xA6F1, 0), (0xA717, 0xA71F, 0), (0xA723, 0xA723, 0), (0xA725, 0xA725, 0),
    (0xA727, 0xA727, 0), (0xA729, 0xA729, 0), (0xA72B, 0xA72B, 0), (0xA72D, 0xA72D, 0),
    (0xA72F, 0xA731, 0), (0xA733, 0xA733, 0), (0xA735, 0xA735, 0), (0xA737, 0xA737, 0),
    (0xA739, 0xA739, 0), (0xA73B, 0xA73B, 0), (0xA73D, 0xA73D, 0), (0xA73F, 0xA73F, 0),
    (0xA741, 0xA741, 0), (0xA743, 0xA743, 0), (0xA745, 0xA745, 0), (0xA747, 0xA747, 0),
    (0xA749, 0xA749, 0), (0xA74B, 0xA74B, 0), (0xA74D, 0xA74D, 0), (0xA74F, 0xA74F, 0),
    (0xA751, 0xA751, 0), (0xA753, 0xA753, 0), (0xA755, 0xA755, 0), (0xA757, 0xA757, 0),
    (0xA759, 0xA759, 0), (0xA75B, 0xA75B, 0), (0xA75D, 0xA75D, 0), (0xA75F, 0xA75F, 0),
    (0xA761, 0xA761, 0), (0xA763, 0xA763, 0), (0xA765, 0xA765, 0), (0xA767, 0xA767, 0),
    (0xA769, 0xA769, 0), (0xA76B, 0xA76B, 0), (0xA76D, 0xA76D, 0), (0xA76F, 0xA76F, 0),
    (0xA771, 0xA778, 0), (0xA77A, 0xA77A, 0), (0xA77C, 0xA77C, 0), (0xA77F, 0xA77F, 0),
    (0xA781, 0xA781, 0), (0xA783, 0xA783, 0), (0xA785, 0xA785, 0), (0xA787, 0xA788, 0),
    (0xA78C, 0xA78C, 0), (0xA78E, 0xA78F, 0), (0xA791, 0xA791, 0), (0xA793, 0xA795, 0),
    (0xA797, 0xA797, 0), (0xA799, 0xA799, 0), (0xA79B, 0xA79B, 0), (0xA79D, 0xA79D, 0),
    (0xA79F, 0xA79F, 0), (0xA7A1, 0xA7A1, 0), (0xA7A3, 0xA7A3, 0), (0xA7A5, 0xA7A5, 0),
    (0xA7A7, 0xA7A7, 0), (0xA7A9, 0xA7A9, 0), (0xA7AF, 0xA7AF, 0), (0xA7B5, 0xA7B5, 0),
    (0xA7B7, 0xA7B7, 0), (0xA7B9, 0xA7B9, 0), (0xA7BB, 0xA7BB, 0), (0xA7BD, 0xA7BD, 0),
    (0xA7BF, 0xA7BF, 0), (0xA7C1, 0xA7C1, 0), (0xA7C3, 0xA7C3, 0), (0xA7C8, 0xA7C8, 0),
    (0xA7CA, 0xA7CA, 0), (0xA7D1, 0xA7D1, 0), (0xA7D3, 0xA7D3, 0), (0xA7D5, 0xA7D5, 0),
    (0xA7D7, 0xA7D7, 0), (0xA7D9, 0xA7D9, 0), (0xA7F6, 0xA7F7, 0), (0xA7FA, 0xA827, 0),
    (0xA82C, 0xA82C, 0), (0xA840, 0xA873, 0), (0xA880, 0xA8C5, 0), (0xA8D0, 0xA8D9, 0),
    (0xA8E0, 0xA8F7, 0), (0xA8FB, 0xA8FB, 0), (0xA8FD, 0xA92D, 0), (0xA930, 0xA953, 0),
    (0xA980, 0xA9C0, 0), (0xA9CF, 0xA9D9, 0), (0xA9E0, 0xA9FE, 0), (0xAA00, 0xAA36, 0),
    (0xAA40, 0xAA4D, 0), (0xAA50, 0xAA59, 0), (0xAA60, 0xAA76, 0), (0xAA7A, 0xAAC2, 0),
    (0xAADB, 0xAADD, 0), (0xAAE0, 0xAAEF, 0), (0xAAF2, 0xAAF6, 0), (0xAB01, 0xAB06, 0),
    (0xAB09, 0xAB0E, 0), (0xAB11, 0xAB16, 0), (0xAB20, 0xAB26, 0), (0xAB28, 0xAB2E, 0),
    (0xAB30, 0xAB5A, 0), (0xAB60, 0xAB68, 0), (0xABC0, 0xABEA, 0), (0xABEC, 0xABED, 0),
    (0xABF0, 0xABF9, 0), (0xAC00, 0xD7A3, 0), (0xFA0E, 0xFA0F, 0), (0xFA11, 0xFA11, 0),
    (0xFA13, 0xFA14, 0), (0xFA1F, 0xFA1F, 0), (0xFA21, 0xFA21, 0), (0xFA23, 0xFA24, 0),
    (0xFA27, 0xFA29, 0), (0xFB1E, 0xFB1E, 0), (0xFE20, 0xFE2F, 0), (0xFE73, 0xFE73, 0),
    (0x10000, 0x1000B, 0), (0x1000D, 0x10026, 0), (0x10028, 0x1003A, 0), (0x1003C, 0x1003D, 0),
    (0x1003F, 0x1004D, 0), (0x10050, 0x1005D, 0), (0x10080, 0x100FA, 0), (0x101FD, 0x101FD, 0),
    (0x10280, 0x1029C, 0), (0x102A0, 0x102D0, 0), (0x102E0, 0x102E0, 0), (0x10300, 0x1031F, 0),
    (0x1032D, 0x10340, 0), (0x10342, 0x10349, 0), (0x10350, 0x1037A, 0), (0x10380, 0x1039D, 0),
    (0x103A0, 0x103C3, 0), (0x103C8, 0x103CF, 0), (0x10428, 0x1049D, 0), (0x104A0, 0x104A9, 0),
    (0x104D8, 0x104FB, 0), (0x10500, 0x10527, 0), (0x10530, 0x10563, 0), (0x10597, 0x105A1, 0),
    (0x105A3, 0x105B1, 0), (0x105B3, 0x105B9, 0), (0x105BB, 0x105BC, 0), (0x10600, 0x10736, 0),
    (0x10740, 0x10755, 0), (0x10760, 0x10767, 0), (0x10780, 0x10780, 0), (0x10800, 0x10805, 0),
    (0x10808, 0x10808, 0), (0x1080A, 0x10835, 0), (0x10837, 0x10838, 0), (0x1083C, 0x1083C, 0),
    (0x1083F, 0x10855, 0), (0x10860, 0x10876, 0), (0x10880, 0x1089E, 0), (0x108E0, 0x108F2, 0),
    (0x108F4, 0x108F5, 0), (0x10900, 0x10915, 0), (0x10920, 0x10939, 0), (0x10980, 0x109B7, 0),
    (0x109BE, 0x109BF, 0), (0x10A00, 0x10A03, 0), (0x10A05, 0x10A06, 0), (0x10A0C, 0x10A13, 0),
    (0x10A15, 0x10A17, 0), (0x10A19, 0x10A35, 0), (0x10A38, 0x10A3A, 0), (0x10A3F, 0x10A3F, 0),
    (0x10A60, 0x10A7C, 0), (0x10A80, 0x10A9C, 0), (0x10AC0, 0x10AC7, 0), (0x10AC9, 0x10AE6, 0),
    (0x10B00, 0x10B35, 0), (0x10B40, 0x10B55, 0), (0x10B60, 0x10B72, 0), (0x10B80, 0x10B91, 0),
    (0x10C00, 0x10C48, 0), (0x10CC0, 0x10CF2, 0), (0x10D00, 0x10D27, 0), (0x10D30, 0x10D39, 0),
    (0x10E80, 0x10EA9, 0), (0x10EAB, 0x10EAC, 0), (0x10EB0, 0x10EB1, 0), (0x10F00, 0x10F1C, 0),
    (0x10F27, 0x10F27, 0), (0x10F30, 0x10F50, 0), (0x10F70, 0x10F85, 0), (0x10FB0, 0x10FC4, 0),
    (0x10FE0, 0x10FF6, 0), (0x11000, 0x11046, 0), (0x11066, 0x11075, 0), (0x1107F, 0x110BA, 0),
    (0x110C2, 0x110C2, 0), (0x110D0, 0x110E8, 0), (0x110F0, 0x110F9, 0), (0x11100, 0x11134, 0),
    (0x11136, 0x1113F, 0), (0x11144, 0x11147, 0), (0x11150, 0x11173, 0), (0x11176, 0x11176, 0),
    (0x11180, 0x111C4, 0), (0x111C9, 0x111CC, 0), (0x111CE, 0x111DA, 0), (0x111DC, 0x111DC, 0),
    (0x11200, 0x11211, 0), (0x11213, 0x11237, 0), (0x1123E, 0x1123E, 0), (0x11280, 0x11286, 0),
    (0x11288, 0x11288, 0), (0x1128A, 0x1128D, 0), (0x1128F, 0x1129D, 0), (0x1129F, 0x112A8, 0),
    (0x112B0, 0x112EA, 0), (0x112F0, 0x112F9, 0), (0x11300, 0x11303, 0), (0x11305, 0x1130C, 0),
    (0x1130F, 0x11310, 0), (0x11313, 0x11328, 0), (0x1132A, 0x11330, 0), (0x11332, 0x11333, 0),
    (0x11335, 0x11339, 0), (0x1133B, 0x11344, 0), (0x11347, 0x11348, 0), (0x1134B, 0x1134D, 0),
    (0x11350, 0x11350, 0), (0x11357, 0x11357, 0), (0x1135D, 0x11363, 0), (0x11366, 0x1136C, 0),
    (0x11370, 0x11374, 0), (0x11400, 0x1144A, 0), (0x11450, 0x11459, 0), (0x1145E, 0x11461, 0),
    (0x11480, 0x114C5, 0), (0x114C7, 0x114C7, 0), (0x114D0, 0x114D9, 0), (0x11580, 0x115B5, 0),
    (0x115B8, 0x115C0, 0), (0x115D8, 0x115DD, 0), (0x11600, 0x11640, 0), (0x11644, 0x11644, 0),
    (0x11650, 0x11659, 0), (0x11680, 0x116B8, 0), (0x116C0, 0x116C9, 0), (0x11700, 0x1171A, 0),
    (0x1171D, 0x1172B, 0), (0x11730, 0x11739, 0), (0x11740, 0x11746, 0), (0x11800, 0x1183A, 0),
    (0x118C0, 0x118E9, 0), (0x118FF, 0x11906, 0), (0x11909, 0x11909, 0), (0x1190C, 0x11913, 0),
    (0x11915, 0x11916, 0), (0x11918, 0x11935, 0), (0x11937, 0x11938, 0), (0x1193B, 0x11943, 0),
    (0x11950, 0x11959, 0), (0x119A0, 0x119A7, 0), (0x119AA, 0x119D7, 0), (0x119DA, 0x119E1, 0),
    (0x119E3, 0x119E4, 0), (0x11A00, 0x11A3E, 0), (0x11A47, 0x11A47, 0), (0x11A50, 0x11A99, 0),
    (0x11A9D, 0x11A9D, 0), (0x11AB0, 0x11AF8, 0), (0x11C00, 0x11C08, 0), (0x11C0A, 0x11C36, 0),
    (0x11C38, 0x11C40, 0), (0x11C50, 0x11C59, 0), (0x11C72, 0x11C8F, 0), (0x11C92, 0x11CA7, 0),
    (0x11CA9, 0x11CB6, 0), (0x11D00, 0x11D06, 0), (0x11D08, 0x11D09, 0), (0x11D0B, 0x11D36, 0),
    (0x11D3A, 0x11D3A, 0), (0x11D3C, 0x11D3D, 0), (0x11D3F, 0x11D47, 0), (0x11D50, 0x11D59, 0),
    (0x11D60, 0x11D65, 0), (0x11D67, 0x11D68, 0), (0x11D6A, 0x11D8E, 0), (0x11D90, 0x11D91, 0),
    (0x11D93, 0x11D98, 0), (0x11DA0, 0x11DA9, 0), (0x11EE0, 0x11EF6, 0), (0x11FB0, 0x11FB0, 0),
    (0x12000, 0x12399, 0), (0x12480, 0x12543, 0), (0x12F90, 0x12FF0, 0), (0x13000, 0x1342E, 0),
    (0x14400, 0x14646, 0), (0x16800, 0x16A38, 0), (0x16A40, 0x16A5E, 0), (0x16A60, 0x16A69, 0),
    (0x16A70, 0x16ABE, 0), (0x16AC0, 0x16AC9, 0), (0x16AD0, 0x16AED, 0), (0x16AF0, 0x16AF4, 0),
    (0x16B00, 0x16B36, 0), (0x16B40, 0x16B43, 0), (0x16B50, 0x16B59, 0), (0x16B63, 0x16B77, 0),
    (0x16B7D, 0x16B8F, 0), (0x16E60, 0x16E7F, 0), (0x16F00, 0x16F4A, 0), (0x16F4F, 0x16F87, 0),
    (0x16F8F, 0x16F9F, 0), (0x16FE0, 0x16FE1, 0), (0x16FE3, 0x16FE4, 0), (0x16FF0, 0x16FF1, 0),
    (0x17000, 0x187F7, 0), (0x18800, 0x18CD5, 0), (0x18D00, 0x18D08, 0), (0x1AFF0, 0x1AFF3, 0),
    (0x1AFF5, 0x1AFFB, 0), (0x1AFFD, 0x1AFFE, 0), (0x1B000, 0x1B122, 0), (0x1B150, 0x1B152, 0),
    (0x1B164, 0x1B167, 0), (0x1B170, 0x1B2FB, 0), (0x1BC00, 0x1BC6A, 0), (0x1BC70, 0x1BC7C, 0),
    (0x1BC80, 0x1BC88, 0), (0x1BC90, 0x1BC99, 0), (0x1BC9D, 0x1BC9E, 0), (0x1CF00, 0x1CF2D, 0),
    (0x1CF30, 0x1CF46, 0), (0x1DA00, 0x1DA36, 0), (0x1DA3B, 0x1DA6C, 0), (0x1DA75, 0x1DA75, 0),
    (0x1DA84, 0x1DA84, 0), (0x1DA9B, 0x1DA9F, 0), (0x1DAA1, 0x1DAAF, 0), (0x1DF00, 0x1DF1E, 0),
    (0x1E000, 0x1E006, 0), (0x1E008, 0x1E018, 0), (0x1E01B, 0x1E021, 0), (0x1E023, 0x1E024, 0),
    (0x1E026, 0x1E02A, 0), (0x1E100, 0x1E12C, 0), (0x1E130, 0x1E13D, 0), (0x1E140, 0x1E149, 0),
    (0x1E14E, 0x1E14E, 0), (0x1E290, 0x1E2AE, 0), (0x1E2C0, 0x1E2F9, 0), (0x1E7E0, 0x1E7E6, 0),
    (0x1E7E8, 0x1E7EB, 0), (0x1E7ED, 0x1E7EE, 0), (0x1E7F0, 0x1E7FE, 0), (0x1E800, 0x1E8C4, 0),
    (0x1E8D0, 0x1E8D6, 0), (0x1E922, 0x1E94B, 0), (0x1E950, 0x1E959, 0), (0x20000, 0x2A6DF, 0),
    (0x2A700, 0x2B738, 0), (0x2B740, 0x2B81D, 0), (0x2B820, 0x2CEA1, 0), (0x2CEB0, 0x2EBE0, 0),
    (0x30000, 0x3134A, 0)]

set_option maxRecDepth 20000 in
/-- The bidirectional class of the code points a label may hold: 0 L, 1 R, 2 AL, 3 AN, 4 EN,
5 ES, 6 CS, 7 ET, 8 ON, 9 BN, 10 NSM. -/
def bidiClasses : Text.ValueTable := #[
    (0x2D, 0x2D, 5), (0x30, 0x39, 4), (0x61, 0x7A, 0), (0xB7, 0xB7, 8),
    (0xDF, 0x2AF, 0), (0x2B9, 0x2BA, 8), (0x2BB, 0x2C1, 0), (0x2C6, 0x2CF, 8),
    (0x2D0, 0x2D1, 0), (0x2EC, 0x2EC, 8), (0x2EE, 0x2EE, 0), (0x300, 0x36F, 10),
    (0x371, 0x373, 0), (0x375, 0x375, 8), (0x377, 0x481, 0), (0x483, 0x487, 10),
    (0x48B, 0x588, 0), (0x591, 0x5C7, 10), (0x5D0, 0x5F4, 1), (0x610, 0x61A, 10),
    (0x620, 0x64A, 2), (0x64B, 0x65F, 10), (0x660, 0x669, 3), (0x66E, 0x66F, 2),
    (0x670, 0x670, 10), (0x671, 0x6D5, 2), (0x6D6, 0x6E4, 10), (0x6E5, 0x6E6, 2),
    (0x6E7, 0x6ED, 10), (0x6EE, 0x6EF, 2), (0x6F0, 0x6F9, 4), (0x6FA, 0x710, 2),
    (0x711, 0x711, 10), (0x712, 0x72F, 2), (0x730, 0x74A, 10), (0x74D, 0x7A5, 2),
    (0x7A6, 0x7B0, 10), (0x7B1, 0x7B1, 2), (0x7C0, 0x7EA, 1), (0x7EB, 0x7F3, 10),
    (0x7F4, 0x7F5, 1), (0x7FD, 0x7FD, 10), (0x800, 0x815, 1), (0x816, 0x819, 10),
    (0x81A, 0x81A, 1), (0x81B, 0x823, 10), (0x824, 0x824, 1), (0x825, 0x827, 10),
    (0x828, 0x828, 1), (0x829, 0x82D, 10), (0x840, 0x858, 1), (0x859, 0x85B, 10),
    (0x860, 0x88E, 2), (0x898, 0x89F, 10), (0x8A0, 0x8C9, 2), (0x8CA, 0x902, 10),
    (0x903, 0x939, 0), (0x93A, 0x93A, 10), (0x93B, 0x93B, 0), (0x93C, 0x93C, 10),
    (0x93D, 0x940, 0), (0x941, 0x948, 10), (0x949, 0x94C, 0), (0x94D, 0x94D, 10),
    (0x94E, 0x950, 0), (0x951, 0x957, 10), (0x960, 0x961, 0), (0x962, 0x963, 10),
    (0x966, 0x980, 0), (0x981, 0x981, 10), (0x982, 0x9B9, 0), (0x9BC, 0x9BC, 10),
    (0x9BD, 0x9C0, 0), (0x9C1, 0x9C4, 10), (0x9C7, 0x9CC, 0), (0x9CD, 0x9CD, 10),
    (0x9CE, 0x9E1, 0), (0x9E2, 0x9E3, 10), (0x9E6, 0x9FC, 0), (0x9FE, 0xA02, 10),
    (0xA03, 0xA39, 0), (0xA3C, 0xA3C, 10), (0xA3E, 0xA40, 0), (0xA41, 0xA51, 10),
    (0xA5C, 0xA6F, 0), (0xA70, 0xA71, 10), (0xA72, 0xA74, 0), (0xA75, 0xA82, 10),
    (0xA83, 0xAB9, 0), (0xABC, 0xABC, 10), (0xABD, 0xAC0, 0), (0xAC1, 0xAC8, 10),
    (0xAC9, 0xACC, 0), (0xACD, 0xACD, 10), (0xAD0, 0xAE1, 0), (0xAE2, 0xAE3, 10),
    (0xAE6, 0xAF9, 0), (0xAFA, 0xB01, 10), (0xB02, 0xB39, 0), (0xB3C, 0xB3C, 10),
    (0xB3D, 0xB3E, 0), (0xB3F, 0xB3F, 10), (0xB40, 0xB40, 0), (0xB41, 0xB44, 10),
    (0xB47, 0xB4C, 0), (0xB4D, 0xB56, 10), (0xB57, 0xB61, 0), (0xB62, 0xB63, 10),
    (0xB66, 0xB71, 0), (0xB82, 0xB82, 10), (0xB83, 0xBBF, 0), (0xBC0, 0xBC0, 10),
    (0xBC1, 0xBCC, 0), (0xBCD, 0xBCD, 10), (0xBD0, 0xBEF, 0), (0xC00, 0xC00, 10),
    (0xC01, 0xC03, 0), (0xC04, 0xC04, 10), (0xC05, 0xC39, 0), (0xC3C, 0xC3C, 10),
    (0xC3D, 0xC3D, 0), (0xC3E, 0xC40, 10), (0xC41, 0xC44, 0), (0xC46, 0xC56, 10),
    (0xC58, 0xC61, 0), (0xC62, 0xC63, 10), (0xC66, 0xC80, 0), (0xC81, 0xC81, 10),
    (0xC82, 0xCB9, 0), (0xCBC, 0xCBC, 10), (0xCBD, 0xCCB, 0), (0xCCC, 0xCCD, 10),
    (0xCD5, 0xCE1, 0), (0xCE2, 0xCE3, 10), (0xCE6, 0xCF2, 0), (0xD00, 0xD01, 10),
    (0xD02, 0xD3A, 0), (0xD3B, 0xD3C, 10), (0xD3D, 0xD40, 0), (0xD41, 0xD44, 10),
    (0xD46, 0xD4C, 0), (0xD4D, 0xD4D, 10), (0xD4E, 0xD61, 0), (0xD62, 0xD63, 10),
    (0xD66, 0xD7F, 0), (0xD81, 0xD81, 10), (0xD82, 0xDC6, 0), (0xDCA, 0xDCA, 10),
    (0xDCF, 0xDD1, 0), (0xDD2, 0xDD6, 10), (0xDD8, 0xE30, 0), (0xE31, 0xE31, 10),
    (0xE32, 0xE32, 0), (0xE34, 0xE3A, 10), (0xE40, 0xE46, 0), (0xE47, 0xE4E, 10),
    (0xE50, 0xEB0, 0), (0xEB1, 0xEB1, 10), (0xEB2, 0xEB2, 0), (0xEB4, 0xEBC, 10),
    (0xEBD, 0xEC6, 0), (0xEC8, 0xECD, 10), (0xED0, 0xF0B, 0), (0xF18, 0xF19, 10),
    (0xF20, 0xF29, 0), (0xF35, 0xF39, 10), (0xF3E, 0xF6C, 0), (0xF71, 0xF7E, 10),
    (0xF7F, 0xF7F, 0), (0xF80, 0xF87, 10), (0xF88, 0xF8C, 0), (0xF8D, 0xFC6, 10),
    (0x1000, 0x102C, 0), (0x102D, 0x1030, 10), (0x1031, 0x1031, 0), (0x1032, 0x1037, 10),
    (0x1038, 0x1038, 0), (0x1039, 0x103A, 10), (0x103B, 0x103C, 0), (0x103D, 0x103E, 10),
    (0x103F, 0x1057, 0), (0x1058, 0x1059, 10), (0x105A, 0x105D, 0), (0x105E, 0x1060, 10),
    (0x1061, 0x1070, 0), (0x1071, 0x1074, 10), (0x1075, 0x1081, 0), (0x1082, 0x1082, 10),
    (0x1083, 0x1084, 0), (0x1085, 0x1086, 10), (0x1087, 0x108C, 0), (0x108D, 0x108D, 10),
    (0x108E, 0x109C, 0), (0x109D, 0x109D, 10), (0x10D0, 0x135A, 0), (0x135D, 0x135F, 10),
    (0x1380, 0x1711, 0), (0x1712, 0x1714, 10), (0x1715, 0x1731, 0), (0x1732, 0x1733, 10),
    (0x1734, 0x1751, 0), (0x1752, 0x1753, 10), (0x1760, 0x1770, 0), (0x1772, 0x1773, 10),
    (0x1780, 0x17B6, 0), (0x17B7, 0x17BD, 10), (0x17BE, 0x17C5, 0), (0x17C6, 0x17C6, 10),
    (0x17C7, 0x17C8, 0), (0x17C9, 0x17D3, 10), (0x17D7, 0x17DC, 0), (0x17DD, 0x17DD, 10),
    (0x17E0, 0x1884, 0), (0x1885, 0x1886, 10), (0x1887, 0x18A8, 0), (0x18A9, 0x18A9, 10),
    (0x18AA, 0x191E, 0), (0x1920, 0x1922, 10), (0x1923, 0x1926, 0), (0x1927, 0x1928, 10),
    (0x1929, 0x1931, 0), (0x1932, 0x1932, 10), (0x1933, 0x1938, 0), (0x1939, 0x193B, 10),
    (0x1946, 0x1A16, 0), (0x1A17, 0x1A18, 10), (0x1A19, 0x1A1A, 0), (0x1A1B, 0x1A1B, 10),
    (0x1A20, 0x1A55, 0), (0x1A56, 0x1A56, 10), (0x1A57, 0x1A57, 0), (0x1A58, 0x1A60, 10),
    (0x1A61, 0x1A61, 0), (0x1A62, 0x1A62, 10), (0x1A63, 0x1A64, 0), (0x1A65, 0x1A6C, 10),
    (0x1A6D, 0x1A72, 0), (0x1A73, 0x1A7F, 10), (0x1A80, 0x1AA7, 0), (0x1AB0, 0x1B03, 10),
    (0x1B04, 0x1B33, 0), (0x1B34, 0x1B34, 10), (0x1B35, 0x1B35, 0), (0x1B36, 0x1B3A, 10),
    (0x1B3B, 0x1B3B, 0), (0x1B3C, 0x1B3C, 10), (0x1B3D, 0x1B41, 0), (0x1B42, 0x1B42, 10),
    (0x1B43, 0x1B59, 0), (0x1B6B, 0x1B81, 10), (0x1B82, 0x1BA1, 0), (0x1BA2, 0x1BA5, 10),
    (0x1BA6, 0x1BA7, 0), (0x1BA8, 0x1BA9, 10), (0x1BAA, 0x1BAA, 0), (0x1BAB, 0x1BAD, 10),
    (0x1BAE, 0x1BE5, 0), (0x1BE6, 0x1BE6, 10), (0x1BE7, 0x1BE7, 0), (0x1BE8, 0x1BE9, 10),
    (0x1BEA, 0x1BEC, 0), (0x1BED, 0x1BED, 10), (0x1BEE, 0x1BEE, 0), (0x1BEF, 0x1BF1, 10),
    (0x1BF2, 0x1C2B, 0), (0x1C2C, 0x1C33, 10), (0x1C34, 0x1C35, 0), (0x1C36, 0x1C37, 10),
    (0x1C40, 0x1C7D, 0), (0x1CD0, 0x1CE0, 10), (0x1CE1, 0x1CE1, 0), (0x1CE2, 0x1CE8, 10),
    (0x1CE9, 0x1CEC, 0), (0x1CED, 0x1CED, 10), (0x1CEE, 0x1CF3, 0), (0x1CF4, 0x1CF4, 10),
    (0x1CF5, 0x1CF7, 0), (0x1CF8, 0x1CF9, 10), (0x1CFA, 0x1D9A, 0), (0x1DC0, 0x1DFF, 10),
    (0x1E01, 0x1FF6, 0), (0x200C, 0x200D, 9), (0x214E, 0x2CEE, 0), (0x2CEF, 0x2CF1, 10),
    (0x2CF3, 0x2D67, 0), (0x2D7F, 0x2D7F, 10), (0x2D80, 0x2DDE, 0), (0x2DE0, 0x2DFF, 10),
    (0x2E2F, 0x2E2F, 8), (0x3005, 0x3007, 0), (0x302A, 0x302D, 10), (0x303C, 0x3096, 0),
    (0x3099, 0x309A, 10), (0x309D, 0x30FA, 0), (0x30FB, 0x30FB, 8), (0x30FC, 0xA66E, 0),
    (0xA66F, 0xA67D, 10), (0xA67F, 0xA67F, 8), (0xA681, 0xA69B, 0), (0xA69E, 0xA69F, 10),
    (0xA6A0, 0xA6E5, 0), (0xA6F0, 0xA6F1, 10), (0xA717, 0xA71F, 8), (0xA723, 0xA787, 0),
    (0xA788, 0xA788, 8), (0xA78C, 0xA801, 0), (0xA802, 0xA802, 10), (0xA803, 0xA805, 0),
    (0xA806, 0xA806, 10), (0xA807, 0xA80A, 0), (0xA80B, 0xA80B, 10), (0xA80C, 0xA824, 0),
    (0xA825, 0xA826, 10), (0xA827, 0xA827, 0), (0xA82C, 0xA82C, 10), (0xA840, 0xA8C3, 0),
    (0xA8C4, 0xA8C5, 10), (0xA8D0, 0xA8D9, 0), (0xA8E0, 0xA8F1, 10), (0xA8F2, 0xA8FE, 0),
    (0xA8FF, 0xA8FF, 10), (0xA900, 0xA925, 0), (0xA926, 0xA92D, 10), (0xA930, 0xA946, 0),
    (0xA947, 0xA951, 10), (0xA952, 0xA953, 0), (0xA980, 0xA982, 10), (0xA983, 0xA9B2, 0),
    (0xA9B3, 0xA9B3, 10), (0xA9B4, 0xA9B5, 0), (0xA9B6, 0xA9B9, 10), (0xA9BA, 0xA9BB, 0),
    (0xA9BC, 0xA9BD, 10), (0xA9BE, 0xA9E4, 0), (0xA9E5, 0xA9E5, 10), (0xA9E6, 0xAA28, 0),
    (0xAA29, 0xAA2E, 10), (0xAA2F, 0xAA30, 0), (0xAA31, 0xAA32, 10), (0xAA33, 0xAA34, 0),
    (0xAA35, 0xAA36, 10), (0xAA40, 0xAA42, 0), (0xAA43, 0xAA43, 10), (0xAA44, 0xAA4B, 0),
    (0xAA4C, 0xAA4C, 10), (0xAA4D, 0xAA7B, 0), (0xAA7C, 0xAA7C, 10), (0xAA7D, 0xAAAF, 0),
    (0xAAB0, 0xAAB0, 10), (0xAAB1, 0xAAB1, 0), (0xAAB2, 0xAAB4, 10), (0xAAB5, 0xAAB6, 0),
    (0xAAB7, 0xAAB8, 10), (0xAAB9, 0xAABD, 0), (0xAABE, 0xAABF, 10), (0xAAC0, 0xAAC0, 0),
    (0xAAC1, 0xAAC1, 10), (0xAAC2, 0xAAEB, 0), (0xAAEC, 0xAAED, 10), (0xAAEE, 0xAAF5, 0),
    (0xAAF6, 0xAAF6, 10), (0xAB01, 0xABE4, 0), (0xABE5, 0xABE5, 10), (0xABE6, 0xABE7, 0),
    (0xABE8, 0xABE8, 10), (0xABE9, 0xABEC, 0), (0xABED, 0xABED, 10), (0xABF0, 0xFA29, 0),
    (0xFB1E, 0xFE2F, 10), (0xFE73, 0xFE73, 2), (0x10000, 0x100FA, 0), (0x101FD, 0x101FD, 10),
    (0x10280, 0x102D0, 0), (0x102E0, 0x102E0, 10), (0x10300, 0x10375, 0), (0x10376, 0x1037A, 10),
    (0x10380, 0x10780, 0), (0x10800, 0x10A00, 1), (0x10A01, 0x10A0F, 10), (0x10A10, 0x10A35, 1),
    (0x10A38, 0x10A3F, 10), (0x10A60, 0x10AE4, 1), (0x10AE5, 0x10AE6, 10), (0x10B00, 0x10CF2, 1),
    (0x10D00, 0x10D23, 2), (0x10D24, 0x10D27, 10), (0x10D30, 0x10D39, 3), (0x10E80, 0x10EA9, 1),
    (0x10EAB, 0x10EAC, 10), (0x10EB0, 0x10F27, 1), (0x10F30, 0x10F45, 2), (0x10F46, 0x10F50, 10),
    (0x10F70, 0x10F81, 1), (0x10F82, 0x10F85, 10), (0x10FB0, 0x10FF6, 1), (0x11000, 0x11000, 0),
    (0x11001, 0x11001, 10), (0x11002, 0x11037, 0), (0x11038, 0x11046, 10), (0x11066, 0x1106F, 0),
    (0x11070, 0x11070, 10), (0x11071, 0x11072, 0), (0x11073, 0x11074, 10), (0x11075, 0x11075, 0),
    (0x1107F, 0x11081, 10), (0x11082, 0x110B2, 0), (0x110B3, 0x110B6, 10), (0x110B7, 0x110B8, 0),
    (0x110B9, 0x110C2, 10), (0x110D0, 0x110F9, 0), (0x11100, 0x11102, 10), (0x11103, 0x11126, 0),
    (0x11127, 0x1112B, 10), (0x1112C, 0x1112C, 0), (0x1112D, 0x11134, 10), (0x11136, 0x11172, 0),
    (0x11173, 0x11173, 10), (0x11176, 0x11176, 0), (0x11180, 0x11181, 10), (0x11182, 0x111B5, 0),
    (0x111B6, 0x111BE, 10), (0x111BF, 0x111C4, 0), (0x111C9, 0x111CC, 10), (0x111CE, 0x111CE, 0),
    (0x111CF, 0x111CF, 10), (0x111D0, 0x1122E, 0), (0x1122F, 0x11231, 10), (0x11232, 0x11233, 0),
    (0x11234, 0x11234, 10), (0x11235, 0x11235, 0), (0x11236, 0x1123E, 10), (0x11280, 0x112DE, 0),
    (0x112DF, 0x112DF, 10), (0x112E0, 0x112E2, 0), (0x112E3, 0x112EA, 10), (0x112F0, 0x112F9, 0),
    (0x11300, 0x11301, 10), (0x11302, 0x11339, 0), (0x1133B, 0x1133C, 10), (0x1133D, 0x1133F, 0),
    (0x11340, 0x11340, 10), (0x11341, 0x11363, 0), (0x11366, 0x11374, 10), (0x11400, 0x11437, 0),
    (0x11438, 0x1143F, 10), (0x11440, 0x11441, 0), (0x11442, 0x11444, 10), (0x11445, 0x11445, 0),
    (0x11446, 0x11446, 10), (0x11447, 0x11459, 0), (0x1145E, 0x1145E, 10), (0x1145F, 0x114B2, 0),
    (0x114B3, 0x114B8, 10), (0x114B9, 0x114B9, 0), (0x114BA, 0x114BA, 10), (0x114BB, 0x114BE, 0),
    (0x114BF, 0x114C0, 10), (0x114C1, 0x114C1, 0), (0x114C2, 0x114C3, 10), (0x114C4, 0x115B1, 0),
    (0x115B2, 0x115B5, 10), (0x115B8, 0x115BB, 0), (0x115BC, 0x115BD, 10), (0x115BE, 0x115BE, 0),
    (0x115BF, 0x115C0, 10), (0x115D8, 0x115DB, 0), (0x115DC, 0x115DD, 10), (0x11600, 0x11632, 0),
    (0x11633, 0x1163A, 10), (0x1163B, 0x1163C, 0), (0x1163D, 0x1163D, 10), (0x1163E, 0x1163E, 0),
    (0x1163F, 0x11640, 10), (0x11644, 0x116AA, 0), (0x116AB, 0x116AB, 10), (0x116AC, 0x116AC, 0),
    (0x116AD, 0x116AD, 10), (0x116AE, 0x116AF, 0), (0x116B0, 0x116B5, 10), (0x116B6, 0x116B6, 0),
    (0x116B7, 0x116B7, 10), (0x116B8, 0x1171A, 0), (0x1171D, 0x1171F, 10), (0x11720, 0x11721, 0),
    (0x11722, 0x11725, 10), (0x11726, 0x11726, 0), (0x11727, 0x1172B, 10), (0x11730, 0x1182E, 0),
    (0x1182F, 0x11837, 10), (0x11838, 0x11838, 0), (0x11839, 0x1183A, 10), (0x118C0, 0x11938, 0),
    (0x1193B, 0x1193C, 10), (0x1193D, 0x1193D, 0), (0x1193E, 0x1193E, 10), (0x1193F, 0x11942, 0),
    (0x11943, 0x11943, 10), (0x11950, 0x119D3, 0), (0x119D4, 0x119DB, 10), (0x119DC, 0x119DF, 0),
    (0x119E0, 0x119E0, 10), (0x119E1, 0x11A00, 0), (0x11A01, 0x11A06, 10), (0x11A07, 0x11A08, 0),
    (0x11A09, 0x11A0A, 10), (0x11A0B, 0x11A32, 0), (0x11A33, 0x11A38, 10), (0x11A39, 0x11A3A, 0),
    (0x11A3B, 0x11A47, 10), (0x11A50, 0x11A50, 0), (0x11A51, 0x11A56, 10), (0x11A57, 0x11A58, 0),
    (0x11A59, 0x11A5B, 10), (0x11A5C, 0x11A89, 0), (0x11A8A, 0x11A96, 10), (0x11A97, 0x11A97, 0),
    (0x11A98, 0x11A99, 10), (0x11A9D, 0x11C2F, 0), (0x11C30, 0x11C3D, 10), (0x11C3E, 0x11C8F, 0),
    (0x11C92, 0x11CA7, 10), (0x11CA9, 0x11CA9, 0), (0x11CAA, 0x11CB0, 10), (0x11CB1, 0x11CB1, 0),
    (0x11CB2, 0x11CB3, 10), (0x11CB4, 0x11CB4, 0), (0x11CB5, 0x11CB6, 10), (0x11D00, 0x11D30, 0),
    (0x11D31, 0x11D45, 10), (0x11D46, 0x11D46, 0), (0x11D47, 0x11D47, 10), (0x11D50, 0x11D8E, 0),
    (0x11D90, 0x11D91, 10), (0x11D93, 0x11D94, 0), (0x11D95, 0x11D95, 10), (0x11D96, 0x11D96, 0),
    (0x11D97, 0x11D97, 10), (0x11D98, 0x11EF2, 0), (0x11EF3, 0x11EF4, 10), (0x11EF5, 0x16AED, 0),
    (0x16AF0, 0x16AF4, 10), (0x16B00, 0x16B2F, 0), (0x16B30, 0x16B36, 10), (0x16B40, 0x16F4A, 0),
    (0x16F4F, 0x16F4F, 10), (0x16F50, 0x16F87, 0), (0x16F8F, 0x16F92, 10), (0x16F93, 0x16FE3, 0),
    (0x16FE4, 0x16FE4, 10), (0x16FF0, 0x1BC99, 0), (0x1BC9D, 0x1DAAF, 10), (0x1DF00, 0x1DF1E, 0),
    (0x1E000, 0x1E02A, 10), (0x1E100, 0x1E12C, 0), (0x1E130, 0x1E136, 10), (0x1E137, 0x1E2AD, 0),
    (0x1E2AE, 0x1E2AE, 10), (0x1E2C0, 0x1E2EB, 0), (0x1E2EC, 0x1E2EF, 10), (0x1E2F0, 0x1E7FE, 0),
    (0x1E800, 0x1E8C4, 1), (0x1E8D0, 0x1E8D6, 10), (0x1E922, 0x1E943, 1), (0x1E944, 0x1E94A, 10),
    (0x1E94B, 0x1E959, 1), (0x20000, 0x3134A, 0)]

set_option maxRecDepth 20000 in
/-- The combining marks among the code points a label may hold. -/
def combiningMarks : Text.RangeTable := #[
    (0x300, 0x36F), (0x483, 0x487), (0x591, 0x5C7), (0x610, 0x61A), (0x64B, 0x65F),
    (0x670, 0x670), (0x6D6, 0x6E4), (0x6E7, 0x6ED), (0x711, 0x711), (0x730, 0x74A),
    (0x7A6, 0x7B0), (0x7EB, 0x7F3), (0x7FD, 0x7FD), (0x816, 0x819), (0x81B, 0x823),
    (0x825, 0x827), (0x829, 0x82D), (0x859, 0x85B), (0x898, 0x89F), (0x8CA, 0x903),
    (0x93A, 0x93C), (0x93E, 0x94F), (0x951, 0x957), (0x962, 0x963), (0x981, 0x983),
    (0x9BC, 0x9BC), (0x9BE, 0x9CD), (0x9D7, 0x9D7), (0x9E2, 0x9E3), (0x9FE, 0xA03),
    (0xA3C, 0xA51), (0xA70, 0xA71), (0xA75, 0xA83), (0xABC, 0xABC), (0xABE, 0xACD),
    (0xAE2, 0xAE3), (0xAFA, 0xB03), (0xB3C, 0xB3C), (0xB3E, 0xB57), (0xB62, 0xB63),
    (0xB82, 0xB82), (0xBBE, 0xBCD), (0xBD7, 0xBD7), (0xC00, 0xC04), (0xC3C, 0xC3C),
    (0xC3E, 0xC56), (0xC62, 0xC63), (0xC81, 0xC83), (0xCBC, 0xCBC), (0xCBE, 0xCD6),
    (0xCE2, 0xCE3), (0xD00, 0xD03), (0xD3B, 0xD3C), (0xD3E, 0xD4D), (0xD57, 0xD57),
    (0xD62, 0xD63), (0xD81, 0xD83), (0xDCA, 0xDDF), (0xDF2, 0xDF3), (0xE31, 0xE31),
    (0xE34, 0xE3A), (0xE47, 0xE4E), (0xEB1, 0xEB1), (0xEB4, 0xEBC), (0xEC8, 0xECD),
    (0xF18, 0xF19), (0xF35, 0xF3F), (0xF71, 0xF87), (0xF8D, 0xFC6), (0x102B, 0x103E),
    (0x1056, 0x1059), (0x105E, 0x1060), (0x1062, 0x1064), (0x1067, 0x106D), (0x1071, 0x1074),
    (0x1082, 0x108D), (0x108F, 0x108F), (0x109A, 0x109D), (0x135D, 0x135F), (0x1712, 0x1715),
    (0x1732, 0x1734), (0x1752, 0x1753), (0x1772, 0x1773), (0x17B6, 0x17D3), (0x17DD, 0x17DD),
    (0x1885, 0x1886), (0x18A9, 0x18A9), (0x1920, 0x193B), (0x1A17, 0x1A1B), (0x1A55, 0x1A7F),
    (0x1AB0, 0x1B04), (0x1B34, 0x1B44), (0x1B6B, 0x1B82), (0x1BA1, 0x1BAD), (0x1BE6, 0x1BF3),
    (0x1C24, 0x1C37), (0x1CD0, 0x1CE8), (0x1CED, 0x1CED), (0x1CF4, 0x1CF4), (0x1CF7, 0x1CF9),
    (0x1DC0, 0x1DFF), (0x2CEF, 0x2CF1), (0x2D7F, 0x2D7F), (0x2DE0, 0x2DFF), (0x302A, 0x302D),
    (0x3099, 0x309A), (0xA66F, 0xA67D), (0xA69E, 0xA69F), (0xA6F0, 0xA6F1), (0xA802, 0xA802),
    (0xA806, 0xA806), (0xA80B, 0xA80B), (0xA823, 0xA82C), (0xA880, 0xA881), (0xA8B4, 0xA8C5),
    (0xA8E0, 0xA8F1), (0xA8FF, 0xA8FF), (0xA926, 0xA92D), (0xA947, 0xA983), (0xA9B3, 0xA9C0),
    (0xA9E5, 0xA9E5), (0xAA29, 0xAA36), (0xAA43, 0xAA43), (0xAA4C, 0xAA4D), (0xAA7B, 0xAA7D),
    (0xAAB0, 0xAAB0), (0xAAB2, 0xAAB4), (0xAAB7, 0xAAB8), (0xAABE, 0xAABF), (0xAAC1, 0xAAC1),
    (0xAAEB, 0xAAEF), (0xAAF5, 0xAAF6), (0xABE3, 0xABED), (0xFB1E, 0xFE2F), (0x101FD, 0x101FD),
    (0x102E0, 0x102E0), (0x10376, 0x1037A), (0x10A01, 0x10A0F), (0x10A38, 0x10A3F), (0x10AE5, 0x10AE6),
    (0x10D24, 0x10D27), (0x10EAB, 0x10EAC), (0x10F46, 0x10F50), (0x10F82, 0x10F85), (0x11000, 0x11002),
    (0x11038, 0x11046), (0x11070, 0x11070), (0x11073, 0x11074), (0x1107F, 0x11082), (0x110B0, 0x110C2),
    (0x11100, 0x11102), (0x11127, 0x11134), (0x11145, 0x11146), (0x11173, 0x11173), (0x11180, 0x11182),
    (0x111B3, 0x111C0), (0x111C9, 0x111CF), (0x1122C, 0x1123E), (0x112DF, 0x112EA), (0x11300, 0x11303),
    (0x1133B, 0x1133C), (0x1133E, 0x1134D), (0x11357, 0x11357), (0x11362, 0x11374), (0x11435, 0x11446),
    (0x1145E, 0x1145E), (0x114B0, 0x114C3), (0x115AF, 0x115C0), (0x115DC, 0x115DD), (0x11630, 0x11640),
    (0x116AB, 0x116B7), (0x1171D, 0x1172B), (0x1182C, 0x1183A), (0x11930, 0x1193E), (0x11940, 0x11940),
    (0x11942, 0x11943), (0x119D1, 0x119E0), (0x119E4, 0x119E4), (0x11A01, 0x11A0A), (0x11A33, 0x11A39),
    (0x11A3B, 0x11A47), (0x11A51, 0x11A5B), (0x11A8A, 0x11A99), (0x11C2F, 0x11C3F), (0x11C92, 0x11CB6),
    (0x11D31, 0x11D45), (0x11D47, 0x11D47), (0x11D8A, 0x11D97), (0x11EF3, 0x11EF6), (0x16AF0, 0x16AF4),
    (0x16B30, 0x16B36), (0x16F4F, 0x16F4F), (0x16F51, 0x16F92), (0x16FE4, 0x16FF1), (0x1BC9D, 0x1DAAF),
    (0x1E000, 0x1E02A), (0x1E130, 0x1E136), (0x1E2AE, 0x1E2AE), (0x1E2EC, 0x1E2EF), (0x1E8D0, 0x1E8D6),
    (0x1E944, 0x1E94A)]

set_option maxRecDepth 20000 in
/-- The canonical combining classes that are not zero. -/
def combiningClasses : Text.ValueTable := #[
    (0x300, 0x314, 230), (0x315, 0x315, 232), (0x316, 0x319, 220), (0x31A, 0x31A, 232),
    (0x31B, 0x31B, 216), (0x31C, 0x320, 220), (0x321, 0x322, 202), (0x323, 0x326, 220),
    (0x327, 0x328, 202), (0x329, 0x333, 220), (0x334, 0x338, 1), (0x339, 0x33C, 220),
    (0x33D, 0x33F, 230), (0x342, 0x342, 230), (0x346, 0x346, 230), (0x347, 0x349, 220),
    (0x34A, 0x34C, 230), (0x34D, 0x34E, 220), (0x350, 0x352, 230), (0x353, 0x356, 220),
    (0x357, 0x357, 230), (0x358, 0x358, 232), (0x359, 0x35A, 220), (0x35B, 0x35B, 230),
    (0x35C, 0x35C, 233), (0x35D, 0x35E, 234), (0x35F, 0x35F, 233), (0x360, 0x361, 234),
    (0x362, 0x362, 233), (0x363, 0x36F, 230), (0x483, 0x487, 230), (0x591, 0x591, 220),
    (0x592, 0x595, 230), (0x596, 0x596, 220), (0x597, 0x599, 230), (0x59A, 0x59A, 222),
    (0x59B, 0x59B, 220), (0x59C, 0x5A1, 230), (0x5A2, 0x5A7, 220), (0x5A8, 0x5A9, 230),
    (0x5AA, 0x5AA, 220), (0x5AB, 0x5AC, 230), (0x5AD, 0x5AD, 222), (0x5AE, 0x5AE, 228),
    (0x5AF, 0x5AF, 230), (0x5B0, 0x5B0, 10), (0x5B1, 0x5B1, 11), (0x5B2, 0x5B2, 12),
    (0x5B3, 0x5B3, 13), (0x5B4, 0x5B4, 14), (0x5B5, 0x5B5, 15), (0x5B6, 0x5B6, 16),
    (0x5B7, 0x5B7, 17), (0x5B8, 0x5B8, 18), (0x5B9, 0x5BA, 19), (0x5BB, 0x5BB, 20),
    (0x5BC, 0x5BC, 21), (0x5BD, 0x5BD, 22), (0x5BF, 0x5BF, 23), (0x5C1, 0x5C1, 24),
    (0x5C2, 0x5C2, 25), (0x5C4, 0x5C4, 230), (0x5C5, 0x5C5, 220), (0x5C7, 0x5C7, 18),
    (0x610, 0x617, 230), (0x618, 0x618, 30), (0x619, 0x619, 31), (0x61A, 0x61A, 32),
    (0x64B, 0x64B, 27), (0x64C, 0x64C, 28), (0x64D, 0x64D, 29), (0x64E, 0x64E, 30),
    (0x64F, 0x64F, 31), (0x650, 0x650, 32), (0x651, 0x651, 33), (0x652, 0x652, 34),
    (0x653, 0x654, 230), (0x655, 0x656, 220), (0x657, 0x65B, 230), (0x65C, 0x65C, 220),
    (0x65D, 0x65E, 230), (0x65F, 0x65F, 220), (0x670, 0x670, 35), (0x6D6, 0x6DC, 230),
    (0x6DF, 0x6E2, 230), (0x6E3, 0x6E3, 220), (0x6E4, 0x6E4, 230), (0x6E7, 0x6E8, 230),
    (0x6EA, 0x6EA, 220), (0x6EB, 0x6EC, 230), (0x6ED, 0x6ED, 220), (0x711, 0x711, 36),
    (0x730, 0x730, 230), (0x731, 0x731, 220), (0x732, 0x733, 230), (0x734, 0x734, 220),
    (0x735, 0x736, 230), (0x737, 0x739, 220), (0x73A, 0x73A, 230), (0x73B, 0x73C, 220),
    (0x73D, 0x73D, 230), (0x73E, 0x73E, 220), (0x73F, 0x741, 230), (0x742, 0x742, 220),
    (0x743, 0x743, 230), (0x744, 0x744, 220), (0x745, 0x745, 230), (0x746, 0x746, 220),
    (0x747, 0x747, 230), (0x748, 0x748, 220), (0x749, 0x74A, 230), (0x7EB, 0x7F1, 230),
    (0x7F2, 0x7F2, 220), (0x7F3, 0x7F3, 230), (0x7FD, 0x7FD, 220), (0x816, 0x819, 230),
    (0x81B, 0x823, 230), (0x825, 0x827, 230), (0x829, 0x82D, 230), (0x859, 0x85B, 220),
    (0x898, 0x898, 230), (0x899, 0x89B, 220), (0x89C, 0x89F, 230), (0x8CA, 0x8CE, 230),
    (0x8CF, 0x8D3, 220), (0x8D4, 0x8E1, 230), (0x8E3, 0x8E3, 220), (0x8E4, 0x8E5, 230),
    (0x8E6, 0x8E6, 220), (0x8E7, 0x8E8, 230), (0x8E9, 0x8E9, 220), (0x8EA, 0x8EC, 230),
    (0x8ED, 0x8EF, 220), (0x8F0, 0x8F0, 27), (0x8F1, 0x8F1, 28), (0x8F2, 0x8F2, 29),
    (0x8F3, 0x8F5, 230), (0x8F6, 0x8F6, 220), (0x8F7, 0x8F8, 230), (0x8F9, 0x8FA, 220),
    (0x8FB, 0x8FF, 230), (0x93C, 0x93C, 7), (0x94D, 0x94D, 9), (0x951, 0x951, 230),
    (0x952, 0x952, 220), (0x953, 0x954, 230), (0x9BC, 0x9BC, 7), (0x9CD, 0x9CD, 9),
    (0x9FE, 0x9FE, 230), (0xA3C, 0xA3C, 7), (0xA4D, 0xA4D, 9), (0xABC, 0xABC, 7),
    (0xACD, 0xACD, 9), (0xB3C, 0xB3C, 7), (0xB4D, 0xB4D, 9), (0xBCD, 0xBCD, 9),
    (0xC3C, 0xC3C, 7), (0xC4D, 0xC4D, 9), (0xC55, 0xC55, 84), (0xC56, 0xC56, 91),
    (0xCBC, 0xCBC, 7), (0xCCD, 0xCCD, 9), (0xD3B, 0xD3C, 9), (0xD4D, 0xD4D, 9),
    (0xDCA, 0xDCA, 9), (0xE38, 0xE39, 103), (0xE3A, 0xE3A, 9), (0xE48, 0xE4B, 107),
    (0xEB8, 0xEB9, 118), (0xEBA, 0xEBA, 9), (0xEC8, 0xECB, 122), (0xF18, 0xF19, 220),
    (0xF35, 0xF35, 220), (0xF37, 0xF37, 220), (0xF39, 0xF39, 216), (0xF71, 0xF71, 129),
    (0xF72, 0xF72, 130), (0xF74, 0xF74, 132), (0xF7A, 0xF7D, 130), (0xF80, 0xF80, 130),
    (0xF82, 0xF83, 230), (0xF84, 0xF84, 9), (0xF86, 0xF87, 230), (0xFC6, 0xFC6, 220),
    (0x1037, 0x1037, 7), (0x1039, 0x103A, 9), (0x108D, 0x108D, 220), (0x135D, 0x135F, 230),
    (0x1714, 0x1715, 9), (0x1734, 0x1734, 9), (0x17D2, 0x17D2, 9), (0x17DD, 0x17DD, 230),
    (0x18A9, 0x18A9, 228), (0x1939, 0x1939, 222), (0x193A, 0x193A, 230), (0x193B, 0x193B, 220),
    (0x1A17, 0x1A17, 230), (0x1A18, 0x1A18, 220), (0x1A60, 0x1A60, 9), (0x1A75, 0x1A7C, 230),
    (0x1A7F, 0x1A7F, 220), (0x1AB0, 0x1AB4, 230), (0x1AB5, 0x1ABA, 220), (0x1ABB, 0x1ABC, 230),
    (0x1ABD, 0x1ABD, 220), (0x1ABF, 0x1AC0, 220), (0x1AC1, 0x1AC2, 230), (0x1AC3, 0x1AC4, 220),
    (0x1AC5, 0x1AC9, 230), (0x1ACA, 0x1ACA, 220), (0x1ACB, 0x1ACE, 230), (0x1B34, 0x1B34, 7),
    (0x1B44, 0x1B44, 9), (0x1B6B, 0x1B6B, 230), (0x1B6C, 0x1B6C, 220), (0x1B6D, 0x1B73, 230),
    (0x1BAA, 0x1BAB, 9), (0x1BE6, 0x1BE6, 7), (0x1BF2, 0x1BF3, 9), (0x1C37, 0x1C37, 7),
    (0x1CD0, 0x1CD2, 230), (0x1CD4, 0x1CD4, 1), (0x1CD5, 0x1CD9, 220), (0x1CDA, 0x1CDB, 230),
    (0x1CDC, 0x1CDF, 220), (0x1CE0, 0x1CE0, 230), (0x1CE2, 0x1CE8, 1), (0x1CED, 0x1CED, 220),
    (0x1CF4, 0x1CF4, 230), (0x1CF8, 0x1CF9, 230), (0x1DC0, 0x1DC1, 230), (0x1DC2, 0x1DC2, 220),
    (0x1DC3, 0x1DC9, 230), (0x1DCA, 0x1DCA, 220), (0x1DCB, 0x1DCC, 230), (0x1DCD, 0x1DCD, 234),
    (0x1DCE, 0x1DCE, 214), (0x1DCF, 0x1DCF, 220), (0x1DD0, 0x1DD0, 202), (0x1DD1, 0x1DF5, 230),
    (0x1DF6, 0x1DF6, 232), (0x1DF7, 0x1DF8, 228), (0x1DF9, 0x1DF9, 220), (0x1DFA, 0x1DFA, 218),
    (0x1DFB, 0x1DFB, 230), (0x1DFC, 0x1DFC, 233), (0x1DFD, 0x1DFD, 220), (0x1DFE, 0x1DFE, 230),
    (0x1DFF, 0x1DFF, 220), (0x2CEF, 0x2CF1, 230), (0x2D7F, 0x2D7F, 9), (0x2DE0, 0x2DFF, 230),
    (0x302A, 0x302A, 218), (0x302B, 0x302B, 228), (0x302C, 0x302C, 232), (0x302D, 0x302D, 222),
    (0x3099, 0x309A, 8), (0xA66F, 0xA66F, 230), (0xA674, 0xA67D, 230), (0xA69E, 0xA69F, 230),
    (0xA6F0, 0xA6F1, 230), (0xA806, 0xA806, 9), (0xA82C, 0xA82C, 9), (0xA8C4, 0xA8C4, 9),
    (0xA8E0, 0xA8F1, 230), (0xA92B, 0xA92D, 220), (0xA953, 0xA953, 9), (0xA9B3, 0xA9B3, 7),
    (0xA9C0, 0xA9C0, 9), (0xAAB0, 0xAAB0, 230), (0xAAB2, 0xAAB3, 230), (0xAAB4, 0xAAB4, 220),
    (0xAAB7, 0xAAB8, 230), (0xAABE, 0xAABF, 230), (0xAAC1, 0xAAC1, 230), (0xAAF6, 0xAAF6, 9),
    (0xABED, 0xABED, 9), (0xFB1E, 0xFB1E, 26), (0xFE20, 0xFE26, 230), (0xFE27, 0xFE2D, 220),
    (0xFE2E, 0xFE2F, 230), (0x101FD, 0x101FD, 220), (0x102E0, 0x102E0, 220), (0x10376, 0x1037A, 230),
    (0x10A0D, 0x10A0D, 220), (0x10A0F, 0x10A0F, 230), (0x10A38, 0x10A38, 230), (0x10A39, 0x10A39, 1),
    (0x10A3A, 0x10A3A, 220), (0x10A3F, 0x10A3F, 9), (0x10AE5, 0x10AE5, 230), (0x10AE6, 0x10AE6, 220),
    (0x10D24, 0x10D27, 230), (0x10EAB, 0x10EAC, 230), (0x10F46, 0x10F47, 220), (0x10F48, 0x10F4A, 230),
    (0x10F4B, 0x10F4B, 220), (0x10F4C, 0x10F4C, 230), (0x10F4D, 0x10F50, 220), (0x10F82, 0x10F82, 230),
    (0x10F83, 0x10F83, 220), (0x10F84, 0x10F84, 230), (0x10F85, 0x10F85, 220), (0x11046, 0x11046, 9),
    (0x11070, 0x11070, 9), (0x1107F, 0x1107F, 9), (0x110B9, 0x110B9, 9), (0x110BA, 0x110BA, 7),
    (0x11100, 0x11102, 230), (0x11133, 0x11134, 9), (0x11173, 0x11173, 7), (0x111C0, 0x111C0, 9),
    (0x111CA, 0x111CA, 7), (0x11235, 0x11235, 9), (0x11236, 0x11236, 7), (0x112E9, 0x112E9, 7),
    (0x112EA, 0x112EA, 9), (0x1133B, 0x1133C, 7), (0x1134D, 0x1134D, 9), (0x11366, 0x1136C, 230),
    (0x11370, 0x11374, 230), (0x11442, 0x11442, 9), (0x11446, 0x11446, 7), (0x1145E, 0x1145E, 230),
    (0x114C2, 0x114C2, 9), (0x114C3, 0x114C3, 7), (0x115BF, 0x115BF, 9), (0x115C0, 0x115C0, 7),
    (0x1163F, 0x1163F, 9), (0x116B6, 0x116B6, 9), (0x116B7, 0x116B7, 7), (0x1172B, 0x1172B, 9),
    (0x11839, 0x11839, 9), (0x1183A, 0x1183A, 7), (0x1193D, 0x1193E, 9), (0x11943, 0x11943, 7),
    (0x119E0, 0x119E0, 9), (0x11A34, 0x11A34, 9), (0x11A47, 0x11A47, 9), (0x11A99, 0x11A99, 9),
    (0x11C3F, 0x11C3F, 9), (0x11D42, 0x11D42, 7), (0x11D44, 0x11D45, 9), (0x11D97, 0x11D97, 9),
    (0x16AF0, 0x16AF4, 1), (0x16B30, 0x16B36, 230), (0x16FF0, 0x16FF1, 6), (0x1BC9E, 0x1BC9E, 1),
    (0x1E000, 0x1E006, 230), (0x1E008, 0x1E018, 230), (0x1E01B, 0x1E021, 230), (0x1E023, 0x1E024, 230),
    (0x1E026, 0x1E02A, 230), (0x1E130, 0x1E136, 230), (0x1E2AE, 0x1E2AE, 230), (0x1E2EC, 0x1E2EF, 230),
    (0x1E8D0, 0x1E8D6, 220), (0x1E944, 0x1E949, 230), (0x1E94A, 0x1E94A, 7)]

set_option maxRecDepth 20000 in
/-- Canonical compositions `(first, second, composed)`, sorted by their two parts: every code
point a label may hold that decomposes canonically decomposes into these two. -/
def compositions : Array (Nat × Nat × Nat) := #[
    (0x61, 0x300, 0xE0), (0x61, 0x301, 0xE1), (0x61, 0x302, 0xE2), (0x61, 0x303, 0xE3),
    (0x61, 0x304, 0x101), (0x61, 0x306, 0x103), (0x61, 0x307, 0x227), (0x61, 0x308, 0xE4),
    (0x61, 0x309, 0x1EA3), (0x61, 0x30A, 0xE5), (0x61, 0x30C, 0x1CE), (0x61, 0x30F, 0x201),
    (0x61, 0x311, 0x203), (0x61, 0x323, 0x1EA1), (0x61, 0x325, 0x1E01), (0x61, 0x328, 0x105),
    (0x62, 0x307, 0x1E03), (0x62, 0x323, 0x1E05), (0x62, 0x331, 0x1E07), (0x63, 0x301, 0x107),
    (0x63, 0x302, 0x109), (0x63, 0x307, 0x10B), (0x63, 0x30C, 0x10D), (0x63, 0x327, 0xE7),
    (0x64, 0x307, 0x1E0B), (0x64, 0x30C, 0x10F), (0x64, 0x323, 0x1E0D), (0x64, 0x327, 0x1E11),
    (0x64, 0x32D, 0x1E13), (0x64, 0x331, 0x1E0F), (0x65, 0x300, 0xE8), (0x65, 0x301, 0xE9),
    (0x65, 0x302, 0xEA), (0x65, 0x303, 0x1EBD), (0x65, 0x304, 0x113), (0x65, 0x306, 0x115),
    (0x65, 0x307, 0x117), (0x65, 0x308, 0xEB), (0x65, 0x309, 0x1EBB), (0x65, 0x30C, 0x11B),
    (0x65, 0x30F, 0x205), (0x65, 0x311, 0x207), (0x65, 0x323, 0x1EB9), (0x65, 0x327, 0x229),
    (0x65, 0x328, 0x119), (0x65, 0x32D, 0x1E19), (0x65, 0x330, 0x1E1B), (0x66, 0x307, 0x1E1F),
    (0x67, 0x301, 0x1F5), (0x67, 0x302, 0x11D), (0x67, 0x304, 0x1E21), (0x67, 0x306, 0x11F),
    (0x67, 0x307, 0x121), (0x67, 0x30C, 0x1E7), (0x67, 0x327, 0x123), (0x68, 0x302, 0x125),
    (0x68, 0x307, 0x1E23), (0x68, 0x308, 0x1E27), (0x68, 0x30C, 0x21F), (0x68, 0x323, 0x1E25),
    (0x68, 0x327, 0x1E29), (0x68, 0x32E, 0x1E2B), (0x68, 0x331, 0x1E96), (0x69, 0x300, 0xEC),
    (0x69, 0x301, 0xED), (0x69, 0x302, 0xEE), (0x69, 0x303, 0x129), (0x69, 0x304, 0x12B),
    (0x69, 0x306, 0x12D), (0x69, 0x308, 0xEF), (0x69, 0x309, 0x1EC9), (0x69, 0x30C, 0x1D0),
    (0x69, 0x30F, 0x209), (0x69, 0x311, 0x20B), (0x69, 0x323, 0x1ECB), (0x69, 0x328, 0x12F),
    (0x69, 0x330, 0x1E2D), (0x6A, 0x302, 0x135), (0x6A, 0x30C, 0x1F0), (0x6B, 0x301, 0x1E31),
    (0x6B, 0x30C, 0x1E9), (0x6B, 0x323, 0x1E33), (0x6B, 0x327, 0x137), (0x6B, 0x331, 0x1E35),
    (0x6C, 0x301, 0x13A), (0x6C, 0x30C, 0x13E), (0x6C, 0x323, 0x1E37), (0x6C, 0x327, 0x13C),
    (0x6C, 0x32D, 0x1E3D), (0x6C, 0x331, 0x1E3B), (0x6D, 0x301, 0x1E3F), (0x6D, 0x307, 0x1E41),
    (0x6D, 0x323, 0x1E43), (0x6E, 0x300, 0x1F9), (0x6E, 0x301, 0x144), (0x6E, 0x303, 0xF1),
    (0x6E, 0x307, 0x1E45), (0x6E, 0x30C, 0x148), (0x6E, 0x323, 0x1E47), (0x6E, 0x327, 0x146),
    (0x6E, 0x32D, 0x1E4B), (0x6E, 0x331, 0x1E49), (0x6F, 0x300, 0xF2), (0x6F, 0x301, 0xF3),
    (0x6F, 0x302, 0xF4), (0x6F, 0x303, 0xF5), (0x6F, 0x304, 0x14D), (0x6F, 0x306, 0x14F),
    (0x6F, 0x307, 0x22F), (0x6F, 0x308, 0xF6), (0x6F, 0x309, 0x1ECF), (0x6F, 0x30B, 0x151),
    (0x6F, 0x30C, 0x1D2), (0x6F, 0x30F, 0x20D), (0x6F, 0x311, 0x20F), (0x6F, 0x31B, 0x1A1),
    (0x6F, 0x323, 0x1ECD), (0x6F, 0x328, 0x1EB), (0x70, 0x301, 0x1E55), (0x70, 0x307, 0x1E57),
    (0x72, 0x301, 0x155), (0x72, 0x307, 0x1E59), (0x72, 0x30C, 0x159), (0x72, 0x30F, 0x211),
    (0x72, 0x311, 0x213), (0x72, 0x323, 0x1E5B), (0x72, 0x327, 0x157), (0x72, 0x331, 0x1E5F),
    (0x73, 0x301, 0x15B), (0x73, 0x302, 0x15D), (0x73, 0x307, 0x1E61), (0x73, 0x30C, 0x161),
    (0x73, 0x323, 0x1E63), (0x73, 0x326, 0x219), (0x73, 0x327, 0x15F), (0x74, 0x307, 0x1E6B),
    (0x74, 0x308, 0x1E97), (0x74, 0x30C, 0x165), (0x74, 0x323, 0x1E6D), (0x74, 0x326, 0x21B),
    (0x74, 0x327, 0x163), (0x74, 0x32D, 0x1E71), (0x74, 0x331, 0x1E6F), (0x75, 0x300, 0xF9),
    (0x75, 0x301, 0xFA), (0x75, 0x302, 0xFB), (0x75, 0x303, 0x169), (0x75, 0x304, 0x16B),
    (0x75, 0x306, 0x16D), (0x75, 0x308, 0xFC), (0x75, 0x309, 0x1EE7), (0x75, 0x30A, 0x16F),
    (0x75, 0x30B, 0x171), (0x75, 0x30C, 0x1D4), (0x75, 0x30F, 0x215), (0x75, 0x311, 0x217),
    (0x75, 0x31B, 0x1B0), (0x75, 0x323, 0x1EE5), (0x75, 0x324, 0x1E73), (0x75, 0x328, 0x173),
    (0x75, 0x32D, 0x1E77), (0x75, 0x330, 0x1E75), (0x76, 0x303, 0x1E7D), (0x76, 0x323, 0x1E7F),
    (0x77, 0x300, 0x1E81), (0x77, 0x301, 0x1E83), (0x77, 0x302, 0x175), (0x77, 0x307, 0x1E87),
    (0x77, 0x308, 0x1E85), (0x77, 0x30A, 0x1E98), (0x77, 0x323, 0x1E89), (0x78, 0x307, 0x1E8B),
    (0x78, 0x308, 0x1E8D), (0x79, 0x300, 0x1EF3), (0x79, 0x301, 0xFD), (0x79, 0x302, 0x177),
    (0x79, 0x303, 0x1EF9), (0x79, 0x304, 0x233), (0x79, 0x307, 0x1E8F), (0x79, 0x308, 0xFF),
    (0x79, 0x309, 0x1EF7), (0x79, 0x30A, 0x1E99), (0x79, 0x323, 0x1EF5), (0x7A, 0x301, 0x17A),
    (0x7A, 0x302, 0x1E91), (0x7A, 0x307, 0x17C), (0x7A, 0x30C, 0x17E), (0x7A, 0x323, 0x1E93),
    (0x7A, 0x331, 0x1E95), (0xE2, 0x300, 0x1EA7), (0xE2, 0x301, 0x1EA5), (0xE2, 0x303, 0x1EAB),
    (0xE2, 0x309, 0x1EA9), (0xE4, 0x304, 0x1DF), (0xE5, 0x301, 0x1FB), (0xE6, 0x301, 0x1FD),
    (0xE6, 0x304, 0x1E3), (0xE7, 0x301, 0x1E09), (0xEA, 0x300, 0x1EC1), (0xEA, 0x301, 0x1EBF),
    (0xEA, 0x303, 0x1EC5), (0xEA, 0x309, 0x1EC3), (0xEF, 0x301, 0x1E2F), (0xF4, 0x300, 0x1ED3),
    (0xF4, 0x301, 0x1ED1), (0xF4, 0x303, 0x1ED7), (0xF4, 0x309, 0x1ED5), (0xF5, 0x301, 0x1E4D),
    (0xF5, 0x304, 0x22D), (0xF5, 0x308, 0x1E4F), (0xF6, 0x304, 0x22B), (0xF8, 0x301, 0x1FF),
    (0xFC, 0x300, 0x1DC), (0xFC, 0x301, 0x1D8), (0xFC, 0x304, 0x1D6), (0xFC, 0x30C, 0x1DA),
    (0x103, 0x300, 0x1EB1), (0x103, 0x301, 0x1EAF), (0x103, 0x303, 0x1EB5), (0x103, 0x309, 0x1EB3),
    (0x113, 0x300, 0x1E15), (0x113, 0x301, 0x1E17), (0x14D, 0x300, 0x1E51), (0x14D, 0x301, 0x1E53),
    (0x15B, 0x307, 0x1E65), (0x161, 0x307, 0x1E67), (0x169, 0x301, 0x1E79), (0x16B, 0x308, 0x1E7B),
    (0x1A1, 0x300, 0x1EDD), (0x1A1, 0x301, 0x1EDB), (0x1A1, 0x303, 0x1EE1), (0x1A1, 0x309, 0x1EDF),
    (0x1A1, 0x323, 0x1EE3), (0x1B0, 0x300, 0x1EEB), (0x1B0, 0x301, 0x1EE9), (0x1B0, 0x303, 0x1EEF),
    (0x1B0, 0x309, 0x1EED), (0x1B0, 0x323, 0x1EF1), (0x1EB, 0x304, 0x1ED), (0x227, 0x304, 0x1E1),
    (0x229, 0x306, 0x1E1D), (0x22F, 0x304, 0x231), (0x292, 0x30C, 0x1EF), (0x3B1, 0x300, 0x1F70),
    (0x3B1, 0x301, 0x3AC), (0x3B1, 0x304, 0x1FB1), (0x3B1, 0x306, 0x1FB0), (0x3B1, 0x313, 0x1F00),
    (0x3B1, 0x314, 0x1F01), (0x3B1, 0x342, 0x1FB6), (0x3B5, 0x300, 0x1F72), (0x3B5, 0x301, 0x3AD),
    (0x3B5, 0x313, 0x1F10), (0x3B5, 0x314, 0x1F11), (0x3B7, 0x300, 0x1F74), (0x3B7, 0x301, 0x3AE),
    (0x3B7, 0x313, 0x1F20), (0x3B7, 0x314, 0x1F21), (0x3B7, 0x342, 0x1FC6), (0x3B9, 0x300, 0x1F76),
    (0x3B9, 0x301, 0x3AF), (0x3B9, 0x304, 0x1FD1), (0x3B9, 0x306, 0x1FD0), (0x3B9, 0x308, 0x3CA),
    (0x3B9, 0x313, 0x1F30), (0x3B9, 0x314, 0x1F31), (0x3B9, 0x342, 0x1FD6), (0x3BF, 0x300, 0x1F78),
    (0x3BF, 0x301, 0x3CC), (0x3BF, 0x313, 0x1F40), (0x3BF, 0x314, 0x1F41), (0x3C1, 0x313, 0x1FE4),
    (0x3C1, 0x314, 0x1FE5), (0x3C5, 0x300, 0x1F7A), (0x3C5, 0x301, 0x3CD), (0x3C5, 0x304, 0x1FE1),
    (0x3C5, 0x306, 0x1FE0), (0x3C5, 0x308, 0x3CB), (0x3C5, 0x313, 0x1F50), (0x3C5, 0x314, 0x1F51),
    (0x3C5, 0x342, 0x1FE6), (0x3C9, 0x300, 0x1F7C), (0x3C9, 0x301, 0x3CE), (0x3C9, 0x313, 0x1F60),
    (0x3C9, 0x314, 0x1F61), (0x3C9, 0x342, 0x1FF6), (0x3CA, 0x300, 0x1FD2), (0x3CA, 0x301, 0x390),
    (0x3CA, 0x342, 0x1FD7), (0x3CB, 0x300, 0x1FE2), (0x3CB, 0x301, 0x3B0), (0x3CB, 0x342, 0x1FE7),
    (0x430, 0x306, 0x4D1), (0x430, 0x308, 0x4D3), (0x433, 0x301, 0x453), (0x435, 0x300, 0x450),
    (0x435, 0x306, 0x4D7), (0x435, 0x308, 0x451), (0x436, 0x306, 0x4C2), (0x436, 0x308, 0x4DD),
    (0x437, 0x308, 0x4DF), (0x438, 0x300, 0x45D), (0x438, 0x304, 0x4E3), (0x438, 0x306, 0x439),
    (0x438, 0x308, 0x4E5), (0x43A, 0x301, 0x45C), (0x43E, 0x308, 0x4E7), (0x443, 0x304, 0x4EF),
    (0x443, 0x306, 0x45E), (0x443, 0x308, 0x4F1), (0x443, 0x30B, 0x4F3), (0x447, 0x308, 0x4F5),
    (0x44B, 0x308, 0x4F9), (0x44D, 0x308, 0x4ED), (0x456, 0x308, 0x457), (0x475, 0x30F, 0x477),
    (0x4D9, 0x308, 0x4DB), (0x4E9, 0x308, 0x4EB), (0x627, 0x653, 0x622), (0x627, 0x654, 0x623),
    (0x627, 0x655, 0x625), (0x648, 0x654, 0x624), (0x64A, 0x654, 0x626), (0x6C1, 0x654, 0x6C2),
    (0x6D2, 0x654, 0x6D3), (0x6D5, 0x654, 0x6C0), (0x928, 0x93C, 0x929), (0x930, 0x93C, 0x931),
    (0x933, 0x93C, 0x934), (0x9C7, 0x9BE, 0x9CB), (0x9C7, 0x9D7, 0x9CC), (0xB47, 0xB3E, 0xB4B),
    (0xB47, 0xB56, 0xB48), (0xB47, 0xB57, 0xB4C), (0xB92, 0xBD7, 0xB94), (0xBC6, 0xBBE, 0xBCA),
    (0xBC6, 0xBD7, 0xBCC), (0xBC7, 0xBBE, 0xBCB), (0xC46, 0xC56, 0xC48), (0xCBF, 0xCD5, 0xCC0),
    (0xCC6, 0xCC2, 0xCCA), (0xCC6, 0xCD5, 0xCC7), (0xCC6, 0xCD6, 0xCC8), (0xCCA, 0xCD5, 0xCCB),
    (0xD46, 0xD3E, 0xD4A), (0xD46, 0xD57, 0xD4C), (0xD47, 0xD3E, 0xD4B), (0xDD9, 0xDCA, 0xDDA),
    (0xDD9, 0xDCF, 0xDDC), (0xDD9, 0xDDF, 0xDDE), (0xDDC, 0xDCA, 0xDDD), (0x1025, 0x102E, 0x1026),
    (0x1B05, 0x1B35, 0x1B06), (0x1B07, 0x1B35, 0x1B08), (0x1B09, 0x1B35, 0x1B0A), (0x1B0B, 0x1B35, 0x1B0C),
    (0x1B0D, 0x1B35, 0x1B0E), (0x1B11, 0x1B35, 0x1B12), (0x1B3A, 0x1B35, 0x1B3B), (0x1B3C, 0x1B35, 0x1B3D),
    (0x1B3E, 0x1B35, 0x1B40), (0x1B3F, 0x1B35, 0x1B41), (0x1B42, 0x1B35, 0x1B43), (0x1E37, 0x304, 0x1E39),
    (0x1E5B, 0x304, 0x1E5D), (0x1E63, 0x307, 0x1E69), (0x1EA1, 0x302, 0x1EAD), (0x1EA1, 0x306, 0x1EB7),
    (0x1EB9, 0x302, 0x1EC7), (0x1ECD, 0x302, 0x1ED9), (0x1F00, 0x300, 0x1F02), (0x1F00, 0x301, 0x1F04),
    (0x1F00, 0x342, 0x1F06), (0x1F01, 0x300, 0x1F03), (0x1F01, 0x301, 0x1F05), (0x1F01, 0x342, 0x1F07),
    (0x1F10, 0x300, 0x1F12), (0x1F10, 0x301, 0x1F14), (0x1F11, 0x300, 0x1F13), (0x1F11, 0x301, 0x1F15),
    (0x1F20, 0x300, 0x1F22), (0x1F20, 0x301, 0x1F24), (0x1F20, 0x342, 0x1F26), (0x1F21, 0x300, 0x1F23),
    (0x1F21, 0x301, 0x1F25), (0x1F21, 0x342, 0x1F27), (0x1F30, 0x300, 0x1F32), (0x1F30, 0x301, 0x1F34),
    (0x1F30, 0x342, 0x1F36), (0x1F31, 0x300, 0x1F33), (0x1F31, 0x301, 0x1F35), (0x1F31, 0x342, 0x1F37),
    (0x1F40, 0x300, 0x1F42), (0x1F40, 0x301, 0x1F44), (0x1F41, 0x300, 0x1F43), (0x1F41, 0x301, 0x1F45),
    (0x1F50, 0x300, 0x1F52), (0x1F50, 0x301, 0x1F54), (0x1F50, 0x342, 0x1F56), (0x1F51, 0x300, 0x1F53),
    (0x1F51, 0x301, 0x1F55), (0x1F51, 0x342, 0x1F57), (0x1F60, 0x300, 0x1F62), (0x1F60, 0x301, 0x1F64),
    (0x1F60, 0x342, 0x1F66), (0x1F61, 0x300, 0x1F63), (0x1F61, 0x301, 0x1F65), (0x1F61, 0x342, 0x1F67),
    (0x3046, 0x3099, 0x3094), (0x304B, 0x3099, 0x304C), (0x304D, 0x3099, 0x304E), (0x304F, 0x3099, 0x3050),
    (0x3051, 0x3099, 0x3052), (0x3053, 0x3099, 0x3054), (0x3055, 0x3099, 0x3056), (0x3057, 0x3099, 0x3058),
    (0x3059, 0x3099, 0x305A), (0x305B, 0x3099, 0x305C), (0x305D, 0x3099, 0x305E), (0x305F, 0x3099, 0x3060),
    (0x3061, 0x3099, 0x3062), (0x3064, 0x3099, 0x3065), (0x3066, 0x3099, 0x3067), (0x3068, 0x3099, 0x3069),
    (0x306F, 0x3099, 0x3070), (0x306F, 0x309A, 0x3071), (0x3072, 0x3099, 0x3073), (0x3072, 0x309A, 0x3074),
    (0x3075, 0x3099, 0x3076), (0x3075, 0x309A, 0x3077), (0x3078, 0x3099, 0x3079), (0x3078, 0x309A, 0x307A),
    (0x307B, 0x3099, 0x307C), (0x307B, 0x309A, 0x307D), (0x309D, 0x3099, 0x309E), (0x30A6, 0x3099, 0x30F4),
    (0x30AB, 0x3099, 0x30AC), (0x30AD, 0x3099, 0x30AE), (0x30AF, 0x3099, 0x30B0), (0x30B1, 0x3099, 0x30B2),
    (0x30B3, 0x3099, 0x30B4), (0x30B5, 0x3099, 0x30B6), (0x30B7, 0x3099, 0x30B8), (0x30B9, 0x3099, 0x30BA),
    (0x30BB, 0x3099, 0x30BC), (0x30BD, 0x3099, 0x30BE), (0x30BF, 0x3099, 0x30C0), (0x30C1, 0x3099, 0x30C2),
    (0x30C4, 0x3099, 0x30C5), (0x30C6, 0x3099, 0x30C7), (0x30C8, 0x3099, 0x30C9), (0x30CF, 0x3099, 0x30D0),
    (0x30CF, 0x309A, 0x30D1), (0x30D2, 0x3099, 0x30D3), (0x30D2, 0x309A, 0x30D4), (0x30D5, 0x3099, 0x30D6),
    (0x30D5, 0x309A, 0x30D7), (0x30D8, 0x3099, 0x30D9), (0x30D8, 0x309A, 0x30DA), (0x30DB, 0x3099, 0x30DC),
    (0x30DB, 0x309A, 0x30DD), (0x30EF, 0x3099, 0x30F7), (0x30F0, 0x3099, 0x30F8), (0x30F1, 0x3099, 0x30F9),
    (0x30F2, 0x3099, 0x30FA), (0x30FD, 0x3099, 0x30FE), (0x11099, 0x110BA, 0x1109A), (0x1109B, 0x110BA, 0x1109C),
    (0x110A5, 0x110BA, 0x110AB), (0x11131, 0x11127, 0x1112E), (0x11132, 0x11127, 0x1112F), (0x11347, 0x1133E, 0x1134B),
    (0x11347, 0x11357, 0x1134C), (0x114B9, 0x114B0, 0x114BC), (0x114B9, 0x114BA, 0x114BB), (0x114B9, 0x114BD, 0x114BE),
    (0x115B8, 0x115AF, 0x115BA), (0x115B9, 0x115AF, 0x115BB), (0x11935, 0x11930, 0x11938)]

/-- The Greek script. -/
def greekScript : Text.RangeTable := #[
    (0x370, 0x373), (0x375, 0x377), (0x37A, 0x37D), (0x37F, 0x37F), (0x384, 0x384),
    (0x386, 0x386), (0x388, 0x38A), (0x38C, 0x38C), (0x38E, 0x3A1), (0x3A3, 0x3E1),
    (0x3F0, 0x3FF), (0x1D26, 0x1D2A), (0x1D5D, 0x1D61), (0x1D66, 0x1D6A), (0x1DBF, 0x1DBF),
    (0x1F00, 0x1F15), (0x1F18, 0x1F1D), (0x1F20, 0x1F45), (0x1F48, 0x1F4D), (0x1F50, 0x1F57),
    (0x1F59, 0x1F59), (0x1F5B, 0x1F5B), (0x1F5D, 0x1F5D), (0x1F5F, 0x1F7D), (0x1F80, 0x1FB4),
    (0x1FB6, 0x1FC4), (0x1FC6, 0x1FD3), (0x1FD6, 0x1FDB), (0x1FDD, 0x1FEF), (0x1FF2, 0x1FF4),
    (0x1FF6, 0x1FFE), (0x2126, 0x2126), (0xAB65, 0xAB65), (0x10140, 0x1018E), (0x101A0, 0x101A0),
    (0x1D200, 0x1D245)]

/-- The Hebrew script. -/
def hebrewScript : Text.RangeTable := #[
    (0x591, 0x5C7), (0x5D0, 0x5EA), (0x5EF, 0x5F4), (0xFB1D, 0xFB36), (0xFB38, 0xFB3C),
    (0xFB3E, 0xFB3E), (0xFB40, 0xFB41), (0xFB43, 0xFB44), (0xFB46, 0xFB4F)]

/-- The Hiragana script. -/
def hiraganaScript : Text.RangeTable := #[
    (0x3041, 0x3096), (0x309D, 0x309F), (0x1B001, 0x1B11F), (0x1B132, 0x1B132), (0x1B150, 0x1B152),
    (0x1F200, 0x1F200)]

/-- The Katakana script. -/
def katakanaScript : Text.RangeTable := #[
    (0x30A1, 0x30FA), (0x30FD, 0x30FF), (0x31F0, 0x31FF), (0x32D0, 0x32FE), (0x3300, 0x3357),
    (0xFF66, 0xFF6F), (0xFF71, 0xFF9D), (0x1AFF0, 0x1AFF3), (0x1AFF5, 0x1AFFB), (0x1AFFD, 0x1AFFE),
    (0x1B000, 0x1B000), (0x1B120, 0x1B122), (0x1B155, 0x1B155), (0x1B164, 0x1B167)]

/-- The Han script. -/
def hanScript : Text.RangeTable := #[
    (0x2E80, 0x2E99), (0x2E9B, 0x2EF3), (0x2F00, 0x2FD5), (0x3005, 0x3005), (0x3007, 0x3007),
    (0x3021, 0x3029), (0x3038, 0x303B), (0x3400, 0x4DBF), (0x4E00, 0x9FFF), (0xF900, 0xFA6D),
    (0xFA70, 0xFAD9), (0x16FE2, 0x16FE3), (0x16FF0, 0x16FF1), (0x20000, 0x2A6DF), (0x2A700, 0x2B739),
    (0x2B740, 0x2B81D), (0x2B820, 0x2CEA1), (0x2CEB0, 0x2EBE0), (0x2EBF0, 0x2EE5D), (0x2F800, 0x2FA1D),
    (0x30000, 0x3134A), (0x31350, 0x323AF)]

set_option maxRecDepth 20000 in
/-- Joining types that the joiner rule tells apart: 0 transparent, 1 left joining, 2 dual
joining, 3 right joining; any other code point joins neither way. -/
def joiningTypes : Text.ValueTable := #[
    (0xAD, 0xAD, 0), (0x300, 0x36F, 0), (0x483, 0x489, 0), (0x591, 0x5BD, 0),
    (0x5BF, 0x5BF, 0), (0x5C1, 0x5C2, 0), (0x5C4, 0x5C5, 0), (0x5C7, 0x5C7, 0),
    (0x610, 0x61A, 0), (0x61C, 0x61C, 0), (0x620, 0x620, 2), (0x622, 0x625, 3),
    (0x626, 0x626, 2), (0x627, 0x627, 3), (0x628, 0x628, 2), (0x629, 0x629, 3),
    (0x62A, 0x62E, 2), (0x62F, 0x632, 3), (0x633, 0x63F, 2), (0x641, 0x647, 2),
    (0x648, 0x648, 3), (0x649, 0x64A, 2), (0x64B, 0x65F, 0), (0x66E, 0x66F, 2),
    (0x670, 0x670, 0), (0x671, 0x673, 3), (0x675, 0x677, 3), (0x678, 0x687, 2),
    (0x688, 0x699, 3), (0x69A, 0x6BF, 2), (0x6C0, 0x6C0, 3), (0x6C1, 0x6C2, 2),
    (0x6C3, 0x6CB, 3), (0x6CC, 0x6CC, 2), (0x6CD, 0x6CD, 3), (0x6CE, 0x6CE, 2),
    (0x6CF, 0x6CF, 3), (0x6D0, 0x6D1, 2), (0x6D2, 0x6D3, 3), (0x6D5, 0x6D5, 3),
    (0x6D6, 0x6DC, 0), (0x6DF, 0x6E4, 0), (0x6E7, 0x6E8, 0), (0x6EA, 0x6ED, 0),
    (0x6EE, 0x6EF, 3), (0x6FA, 0x6FC, 2), (0x6FF, 0x6FF, 2), (0x70F, 0x70F, 0),
    (0x710, 0x710, 3), (0x711, 0x711, 0), (0x712, 0x714, 2), (0x715, 0x719, 3),
    (0x71A, 0x71D, 2), (0x71E, 0x71E, 3), (0x71F, 0x727, 2), (0x728, 0x728, 3),
    (0x729, 0x729, 2), (0x72A, 0x72A, 3), (0x72B, 0x72B, 2), (0x72C, 0x72C, 3),
    (0x72D, 0x72E, 2), (0x72F, 0x72F, 3), (0x730, 0x74A, 0), (0x74D, 0x74D, 3),
    (0x74E, 0x758, 2), (0x759, 0x75B, 3), (0x75C, 0x76A, 2), (0x76B, 0x76C, 3),
    (0x76D, 0x770, 2), (0x771, 0x771, 3), (0x772, 0x772, 2), (0x773, 0x774, 3),
    (0x775, 0x777, 2), (0x778, 0x779, 3), (0x77A, 0x77F, 2), (0x7A6, 0x7B0, 0),
    (0x7CA, 0x7EA, 2), (0x7EB, 0x7F3, 0), (0x7FD, 0x7FD, 0), (0x816, 0x819, 0),
    (0x81B, 0x823, 0), (0x825, 0x827, 0), (0x829, 0x82D, 0), (0x840, 0x840, 3),
    (0x841, 0x845, 2), (0x846, 0x847, 3), (0x848, 0x848, 2), (0x849, 0x849, 3),
    (0x84A, 0x853, 2), (0x854, 0x854, 3), (0x855, 0x855, 2), (0x856, 0x858, 3),
    (0x859, 0x85B, 0), (0x860, 0x860, 2), (0x862, 0x865, 2), (0x867, 0x867, 3),
    (0x868, 0x868, 2), (0x869, 0x86A, 3), (0x870, 0x882, 3), (0x886, 0x886, 2),
    (0x889, 0x88D, 2), (0x88E, 0x88E, 3), (0x898, 0x89F, 0), (0x8A0, 0x8A9, 2),
    (0x8AA, 0x8AC, 3), (0x8AE, 0x8AE, 3), (0x8AF, 0x8B0, 2), (0x8B1, 0x8B2, 3),
    (0x8B3, 0x8B8, 2), (0x8B9, 0x8B9, 3), (0x8BA, 0x8C8, 2), (0x8CA, 0x8E1, 0),
    (0x8E3, 0x902, 0), (0x93A, 0x93A, 0), (0x93C, 0x93C, 0), (0x941, 0x948, 0),
    (0x94D, 0x94D, 0), (0x951, 0x957, 0), (0x962, 0x963, 0), (0x981, 0x981, 0),
    (0x9BC, 0x9BC, 0), (0x9C1, 0x9C4, 0), (0x9CD, 0x9CD, 0), (0x9E2, 0x9E3, 0),
    (0x9FE, 0x9FE, 0), (0xA01, 0xA02, 0), (0xA3C, 0xA3C, 0), (0xA41, 0xA42, 0),
    (0xA47, 0xA48, 0), (0xA4B, 0xA4D, 0), (0xA51, 0xA51, 0), (0xA70, 0xA71, 0),
    (0xA75, 0xA75, 0), (0xA81, 0xA82, 0), (0xABC, 0xABC, 0), (0xAC1, 0xAC5, 0),
    (0xAC7, 0xAC8, 0), (0xACD, 0xACD, 0), (0xAE2, 0xAE3, 0), (0xAFA, 0xAFF, 0),
    (0xB01, 0xB01, 0), (0xB3C, 0xB3C, 0), (0xB3F, 0xB3F, 0), (0xB41, 0xB44, 0),
    (0xB4D, 0xB4D, 0), (0xB55, 0xB56, 0), (0xB62, 0xB63, 0), (0xB82, 0xB82, 0),
    (0xBC0, 0xBC0, 0), (0xBCD, 0xBCD, 0), (0xC00, 0xC00, 0), (0xC04, 0xC04, 0),
    (0xC3C, 0xC3C, 0), (0xC3E, 0xC40, 0), (0xC46, 0xC48, 0), (0xC4A, 0xC4D, 0),
    (0xC55, 0xC56, 0), (0xC62, 0xC63, 0), (0xC81, 0xC81, 0), (0xCBC, 0xCBC, 0),
    (0xCBF, 0xCBF, 0), (0xCC6, 0xCC6, 0), (0xCCC, 0xCCD, 0), (0xCE2, 0xCE3, 0),
    (0xD00, 0xD01, 0), (0xD3B, 0xD3C, 0), (0xD41, 0xD44, 0), (0xD4D, 0xD4D, 0),
    (0xD62, 0xD63, 0), (0xD81, 0xD81, 0), (0xDCA, 0xDCA, 0), (0xDD2, 0xDD4, 0),
    (0xDD6, 0xDD6, 0), (0xE31, 0xE31, 0), (0xE34, 0xE3A, 0), (0xE47, 0xE4E, 0),
    (0xEB1, 0xEB1, 0), (0xEB4, 0xEBC, 0), (0xEC8, 0xECE, 0), (0xF18, 0xF19, 0),
    (0xF35, 0xF35, 0), (0xF37, 0xF37, 0), (0xF39, 0xF39, 0), (0xF71, 0xF7E, 0),
    (0xF80, 0xF84, 0), (0xF86, 0xF87, 0), (0xF8D, 0xF97, 0), (0xF99, 0xFBC, 0),
    (0xFC6, 0xFC6, 0), (0x102D, 0x1030, 0), (0x1032, 0x1037, 0), (0x1039, 0x103A, 0),
    (0x103D, 0x103E, 0), (0x1058, 0x1059, 0), (0x105E, 0x1060, 0), (0x1071, 0x1074, 0),
    (0x1082, 0x1082, 0), (0x1085, 0x1086, 0), (0x108D, 0x108D, 0), (0x109D, 0x109D, 0),
    (0x135D, 0x135F, 0), (0x1712, 0x1714, 0), (0x1732, 0x1733, 0), (0x1752, 0x1753, 0),
    (0x1772, 0x1773, 0), (0x17B4, 0x17B5, 0), (0x17B7, 0x17BD, 0), (0x17C6, 0x17C6, 0),
    (0x17C9, 0x17D3, 0), (0x17DD, 0x17DD, 0), (0x1807, 0x1807, 2), (0x180B, 0x180D, 0),
    (0x180F, 0x180F, 0), (0x1820, 0x1878, 2), (0x1885, 0x1886, 0), (0x1887, 0x18A8, 2),
    (0x18A9, 0x18A9, 0), (0x18AA, 0x18AA, 2), (0x1920, 0x1922, 0), (0x1927, 0x1928, 0),
    (0x1932, 0x1932, 0), (0x1939, 0x193B, 0), (0x1A17, 0x1A18, 0), (0x1A1B, 0x1A1B, 0),
    (0x1A56, 0x1A56, 0), (0x1A58, 0x1A5E, 0), (0x1A60, 0x1A60, 0), (0x1A62, 0x1A62, 0),
    (0x1A65, 0x1A6C, 0), (0x1A73, 0x1A7C, 0), (0x1A7F, 0x1A7F, 0), (0x1AB0, 0x1ACE, 0),
    (0x1B00, 0x1B03, 0), (0x1B34, 0x1B34, 0), (0x1B36, 0x1B3A, 0), (0x1B3C, 0x1B3C, 0),
    (0x1B42, 0x1B42, 0), (0x1B6B, 0x1B73, 0), (0x1B80, 0x1B81, 0), (0x1BA2, 0x1BA5, 0),
    (0x1BA8, 0x1BA9, 0), (0x1BAB, 0x1BAD, 0), (0x1BE6, 0x1BE6, 0), (0x1BE8, 0x1BE9, 0),
    (0x1BED, 0x1BED, 0), (0x1BEF, 0x1BF1, 0), (0x1C2C, 0x1C33, 0), (0x1C36, 0x1C37, 0),
    (0x1CD0, 0x1CD2, 0), (0x1CD4, 0x1CE0, 0), (0x1CE2, 0x1CE8, 0), (0x1CED, 0x1CED, 0),
    (0x1CF4, 0x1CF4, 0), (0x1CF8, 0x1CF9, 0), (0x1DC0, 0x1DFF, 0), (0x200B, 0x200B, 0),
    (0x200E, 0x200F, 0), (0x202A, 0x202E, 0), (0x2060, 0x2064, 0), (0x206A, 0x206F, 0),
    (0x20D0, 0x20F0, 0), (0x2CEF, 0x2CF1, 0), (0x2D7F, 0x2D7F, 0), (0x2DE0, 0x2DFF, 0),
    (0x302A, 0x302D, 0), (0x3099, 0x309A, 0), (0xA66F, 0xA672, 0), (0xA674, 0xA67D, 0),
    (0xA69E, 0xA69F, 0), (0xA6F0, 0xA6F1, 0), (0xA802, 0xA802, 0), (0xA806, 0xA806, 0),
    (0xA80B, 0xA80B, 0), (0xA825, 0xA826, 0), (0xA82C, 0xA82C, 0), (0xA840, 0xA871, 2),
    (0xA872, 0xA872, 1), (0xA8C4, 0xA8C5, 0), (0xA8E0, 0xA8F1, 0), (0xA8FF, 0xA8FF, 0),
    (0xA926, 0xA92D, 0), (0xA947, 0xA951, 0), (0xA980, 0xA982, 0), (0xA9B3, 0xA9B3, 0),
    (0xA9B6, 0xA9B9, 0), (0xA9BC, 0xA9BD, 0), (0xA9E5, 0xA9E5, 0), (0xAA29, 0xAA2E, 0),
    (0xAA31, 0xAA32, 0), (0xAA35, 0xAA36, 0), (0xAA43, 0xAA43, 0), (0xAA4C, 0xAA4C, 0),
    (0xAA7C, 0xAA7C, 0), (0xAAB0, 0xAAB0, 0), (0xAAB2, 0xAAB4, 0), (0xAAB7, 0xAAB8, 0),
    (0xAABE, 0xAABF, 0), (0xAAC1, 0xAAC1, 0), (0xAAEC, 0xAAED, 0), (0xAAF6, 0xAAF6, 0),
    (0xABE5, 0xABE5, 0), (0xABE8, 0xABE8, 0), (0xABED, 0xABED, 0), (0xFB1E, 0xFB1E, 0),
    (0xFE00, 0xFE0F, 0), (0xFE20, 0xFE2F, 0), (0xFEFF, 0xFEFF, 0), (0xFFF9, 0xFFFB, 0),
    (0x101FD, 0x101FD, 0), (0x102E0, 0x102E0, 0), (0x10376, 0x1037A, 0), (0x10A01, 0x10A03, 0),
    (0x10A05, 0x10A06, 0), (0x10A0C, 0x10A0F, 0), (0x10A38, 0x10A3A, 0), (0x10A3F, 0x10A3F, 0),
    (0x10AC0, 0x10AC4, 2), (0x10AC5, 0x10AC5, 3), (0x10AC7, 0x10AC7, 3), (0x10AC9, 0x10ACA, 3),
    (0x10ACD, 0x10ACD, 1), (0x10ACE, 0x10AD2, 3), (0x10AD3, 0x10AD6, 2), (0x10AD7, 0x10AD7, 1),
    (0x10AD8, 0x10ADC, 2), (0x10ADD, 0x10ADD, 3), (0x10ADE, 0x10AE0, 2), (0x10AE1, 0x10AE1, 3),
    (0x10AE4, 0x10AE4, 3), (0x10AE5, 0x10AE6, 0), (0x10AEB, 0x10AEE, 2), (0x10AEF, 0x10AEF, 3),
    (0x10B80, 0x10B80, 2), (0x10B81, 0x10B81, 3), (0x10B82, 0x10B82, 2), (0x10B83, 0x10B85, 3),
    (0x10B86, 0x10B88, 2), (0x10B89, 0x10B89, 3), (0x10B8A, 0x10B8B, 2), (0x10B8C, 0x10B8C, 3),
    (0x10B8D, 0x10B8D, 2), (0x10B8E, 0x10B8F, 3), (0x10B90, 0x10B90, 2), (0x10B91, 0x10B91, 3),
    (0x10BA9, 0x10BAC, 3), (0x10BAD, 0x10BAE, 2), (0x10D00, 0x10D00, 1), (0x10D01, 0x10D21, 2),
    (0x10D22, 0x10D22, 3), (0x10D23, 0x10D23, 2), (0x10D24, 0x10D27, 0), (0x10EAB, 0x10EAC, 0),
    (0x10EFD, 0x10EFF, 0), (0x10F30, 0x10F32, 2), (0x10F33, 0x10F33, 3), (0x10F34, 0x10F44, 2),
    (0x10F46, 0x10F50, 0), (0x10F51, 0x10F53, 2), (0x10F54, 0x10F54, 3), (0x10F70, 0x10F73, 2),
    (0x10F74, 0x10F75, 3), (0x10F76, 0x10F81, 2), (0x10F82, 0x10F85, 0), (0x10FB0, 0x10FB0, 2),
    (0x10FB2, 0x10FB3, 2), (0x10FB4, 0x10FB6, 3), (0x10FB8, 0x10FB8, 2), (0x10FB9, 0x10FBA, 3),
    (0x10FBB, 0x10FBC, 2), (0x10FBD, 0x10FBD, 3), (0x10FBE, 0x10FBF, 2), (0x10FC1, 0x10FC1, 2),
    (0x10FC2, 0x10FC3, 3), (0x10FC4, 0x10FC4, 2), (0x10FC9, 0x10FC9, 3), (0x10FCA, 0x10FCA, 2),
    (0x10FCB, 0x10FCB, 1), (0x11001, 0x11001, 0), (0x11038, 0x11046, 0), (0x11070, 0x11070, 0),
    (0x11073, 0x11074, 0), (0x1107F, 0x11081, 0), (0x110B3, 0x110B6, 0), (0x110B9, 0x110BA, 0),
    (0x110C2, 0x110C2, 0), (0x11100, 0x11102, 0), (0x11127, 0x1112B, 0), (0x1112D, 0x11134, 0),
    (0x11173, 0x11173, 0), (0x11180, 0x11181, 0), (0x111B6, 0x111BE, 0), (0x111C9, 0x111CC, 0),
    (0x111CF, 0x111CF, 0), (0x1122F, 0x11231, 0), (0x11234, 0x11234, 0), (0x11236, 0x11237, 0),
    (0x1123E, 0x1123E, 0), (0x11241, 0x11241, 0), (0x112DF, 0x112DF, 0), (0x112E3, 0x112EA, 0),
    (0x11300, 0x11301, 0), (0x1133B, 0x1133C, 0), (0x11340, 0x11340, 0), (0x11366, 0x1136C, 0),
    (0x11370, 0x11374, 0), (0x11438, 0x1143F, 0), (0x11442, 0x11444, 0), (0x11446, 0x11446, 0),
    (0x1145E, 0x1145E, 0), (0x114B3, 0x114B8, 0), (0x114BA, 0x114BA, 0), (0x114BF, 0x114C0, 0),
    (0x114C2, 0x114C3, 0), (0x115B2, 0x115B5, 0), (0x115BC, 0x115BD, 0), (0x115BF, 0x115C0, 0),
    (0x115DC, 0x115DD, 0), (0x11633, 0x1163A, 0), (0x1163D, 0x1163D, 0), (0x1163F, 0x11640, 0),
    (0x116AB, 0x116AB, 0), (0x116AD, 0x116AD, 0), (0x116B0, 0x116B5, 0), (0x116B7, 0x116B7, 0),
    (0x1171D, 0x1171F, 0), (0x11722, 0x11725, 0), (0x11727, 0x1172B, 0), (0x1182F, 0x11837, 0),
    (0x11839, 0x1183A, 0), (0x1193B, 0x1193C, 0), (0x1193E, 0x1193E, 0), (0x11943, 0x11943, 0),
    (0x119D4, 0x119D7, 0), (0x119DA, 0x119DB, 0), (0x119E0, 0x119E0, 0), (0x11A01, 0x11A0A, 0),
    (0x11A33, 0x11A38, 0), (0x11A3B, 0x11A3E, 0), (0x11A47, 0x11A47, 0), (0x11A51, 0x11A56, 0),
    (0x11A59, 0x11A5B, 0), (0x11A8A, 0x11A96, 0), (0x11A98, 0x11A99, 0), (0x11C30, 0x11C36, 0),
    (0x11C38, 0x11C3D, 0), (0x11C3F, 0x11C3F, 0), (0x11C92, 0x11CA7, 0), (0x11CAA, 0x11CB0, 0),
    (0x11CB2, 0x11CB3, 0), (0x11CB5, 0x11CB6, 0), (0x11D31, 0x11D36, 0), (0x11D3A, 0x11D3A, 0),
    (0x11D3C, 0x11D3D, 0), (0x11D3F, 0x11D45, 0), (0x11D47, 0x11D47, 0), (0x11D90, 0x11D91, 0),
    (0x11D95, 0x11D95, 0), (0x11D97, 0x11D97, 0), (0x11EF3, 0x11EF4, 0), (0x11F00, 0x11F01, 0),
    (0x11F36, 0x11F3A, 0), (0x11F40, 0x11F40, 0), (0x11F42, 0x11F42, 0), (0x13430, 0x13440, 0),
    (0x13447, 0x13455, 0), (0x16AF0, 0x16AF4, 0), (0x16B30, 0x16B36, 0), (0x16F4F, 0x16F4F, 0),
    (0x16F8F, 0x16F92, 0), (0x16FE4, 0x16FE4, 0), (0x1BC9D, 0x1BC9E, 0), (0x1BCA0, 0x1BCA3, 0),
    (0x1CF00, 0x1CF2D, 0), (0x1CF30, 0x1CF46, 0), (0x1D167, 0x1D169, 0), (0x1D173, 0x1D182, 0),
    (0x1D185, 0x1D18B, 0), (0x1D1AA, 0x1D1AD, 0), (0x1D242, 0x1D244, 0), (0x1DA00, 0x1DA36, 0),
    (0x1DA3B, 0x1DA6C, 0), (0x1DA75, 0x1DA75, 0), (0x1DA84, 0x1DA84, 0), (0x1DA9B, 0x1DA9F, 0),
    (0x1DAA1, 0x1DAAF, 0), (0x1E000, 0x1E006, 0), (0x1E008, 0x1E018, 0), (0x1E01B, 0x1E021, 0),
    (0x1E023, 0x1E024, 0), (0x1E026, 0x1E02A, 0), (0x1E08F, 0x1E08F, 0), (0x1E130, 0x1E136, 0),
    (0x1E2AE, 0x1E2AE, 0), (0x1E2EC, 0x1E2EF, 0), (0x1E4EC, 0x1E4EF, 0), (0x1E8D0, 0x1E8D6, 0),
    (0x1E900, 0x1E943, 2), (0x1E944, 0x1E94B, 0), (0xE0001, 0xE0001, 0), (0xE0020, 0xE007F, 0),
    (0xE0100, 0xE01EF, 0)]

end Bookmarks.Url.Idna
