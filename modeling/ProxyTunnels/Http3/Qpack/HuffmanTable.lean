import Mathlib.Data.List.Sort
import ProxyTunnels.Wire.LookupTree

/-! The two Huffman tables of the vendored coder.

The encoder has one row a byte: the code in parts of eight bits, the last part shorter,
and its length. The decoder has nested tables, each read with a number of bits of its
own. That the two describe one prefix code is checked here once, row by row.
-/

set_option autoImplicit false

namespace ProxyTunnels.Http3.Qpack

open Wire

structure EncodeValue where
  buffer : List UInt8
  bitCount : Nat
  deriving DecidableEq, Repr

/-- The encoder's `HPACK_STRING`. -/
def hpackString : List EncodeValue :=
  [
    ⟨[255, 24], 13⟩, ⟨[255, 255, 88], 23⟩, ⟨[255, 255, 254, 2], 28⟩, ⟨[255, 255, 254, 3], 28⟩,
    ⟨[255, 255, 254, 4], 28⟩, ⟨[255, 255, 254, 5], 28⟩, ⟨[255, 255, 254, 6], 28⟩, ⟨[255, 255, 254, 7], 28⟩,
    ⟨[255, 255, 254, 8], 28⟩, ⟨[255, 255, 234], 24⟩, ⟨[255, 255, 255, 60], 30⟩, ⟨[255, 255, 254, 9], 28⟩,
    ⟨[255, 255, 254, 10], 28⟩, ⟨[255, 255, 255, 61], 30⟩, ⟨[255, 255, 254, 11], 28⟩,
    ⟨[255, 255, 254, 12], 28⟩, ⟨[255, 255, 254, 13], 28⟩, ⟨[255, 255, 254, 14], 28⟩,
    ⟨[255, 255, 254, 15], 28⟩, ⟨[255, 255, 255, 0], 28⟩, ⟨[255, 255, 255, 1], 28⟩, ⟨[255, 255, 255, 2], 28⟩,
    ⟨[255, 255, 255, 62], 30⟩, ⟨[255, 255, 255, 3], 28⟩, ⟨[255, 255, 255, 4], 28⟩, ⟨[255, 255, 255, 5], 28⟩,
    ⟨[255, 255, 255, 6], 28⟩, ⟨[255, 255, 255, 7], 28⟩, ⟨[255, 255, 255, 8], 28⟩, ⟨[255, 255, 255, 9], 28⟩,
    ⟨[255, 255, 255, 10], 28⟩, ⟨[255, 255, 255, 11], 28⟩, ⟨[20], 6⟩, ⟨[254, 0], 10⟩, ⟨[254, 1], 10⟩,
    ⟨[255, 10], 12⟩, ⟨[255, 25], 13⟩, ⟨[21], 6⟩, ⟨[248], 8⟩, ⟨[255, 2], 11⟩, ⟨[254, 2], 10⟩, ⟨[254, 3], 10⟩,
    ⟨[249], 8⟩, ⟨[255, 3], 11⟩, ⟨[250], 8⟩, ⟨[22], 6⟩, ⟨[23], 6⟩, ⟨[24], 6⟩, ⟨[0], 5⟩, ⟨[1], 5⟩, ⟨[2], 5⟩,
    ⟨[25], 6⟩, ⟨[26], 6⟩, ⟨[27], 6⟩, ⟨[28], 6⟩, ⟨[29], 6⟩, ⟨[30], 6⟩, ⟨[31], 6⟩, ⟨[92], 7⟩, ⟨[251], 8⟩,
    ⟨[255, 124], 15⟩, ⟨[32], 6⟩, ⟨[255, 11], 12⟩, ⟨[255, 0], 10⟩, ⟨[255, 26], 13⟩, ⟨[33], 6⟩, ⟨[93], 7⟩,
    ⟨[94], 7⟩, ⟨[95], 7⟩, ⟨[96], 7⟩, ⟨[97], 7⟩, ⟨[98], 7⟩, ⟨[99], 7⟩, ⟨[100], 7⟩, ⟨[101], 7⟩, ⟨[102], 7⟩,
    ⟨[103], 7⟩, ⟨[104], 7⟩, ⟨[105], 7⟩, ⟨[106], 7⟩, ⟨[107], 7⟩, ⟨[108], 7⟩, ⟨[109], 7⟩, ⟨[110], 7⟩,
    ⟨[111], 7⟩, ⟨[112], 7⟩, ⟨[113], 7⟩, ⟨[114], 7⟩, ⟨[252], 8⟩, ⟨[115], 7⟩, ⟨[253], 8⟩, ⟨[255, 27], 13⟩,
    ⟨[255, 254, 0], 19⟩, ⟨[255, 28], 13⟩, ⟨[255, 60], 14⟩, ⟨[34], 6⟩, ⟨[255, 125], 15⟩, ⟨[3], 5⟩, ⟨[35], 6⟩,
    ⟨[4], 5⟩, ⟨[36], 6⟩, ⟨[5], 5⟩, ⟨[37], 6⟩, ⟨[38], 6⟩, ⟨[39], 6⟩, ⟨[6], 5⟩, ⟨[116], 7⟩, ⟨[117], 7⟩,
    ⟨[40], 6⟩, ⟨[41], 6⟩, ⟨[42], 6⟩, ⟨[7], 5⟩, ⟨[43], 6⟩, ⟨[118], 7⟩, ⟨[44], 6⟩, ⟨[8], 5⟩, ⟨[9], 5⟩,
    ⟨[45], 6⟩, ⟨[119], 7⟩, ⟨[120], 7⟩, ⟨[121], 7⟩, ⟨[122], 7⟩, ⟨[123], 7⟩, ⟨[255, 126], 15⟩, ⟨[255, 4], 11⟩,
    ⟨[255, 61], 14⟩, ⟨[255, 29], 13⟩, ⟨[255, 255, 255, 12], 28⟩, ⟨[255, 254, 6], 20⟩, ⟨[255, 255, 18], 22⟩,
    ⟨[255, 254, 7], 20⟩, ⟨[255, 254, 8], 20⟩, ⟨[255, 255, 19], 22⟩, ⟨[255, 255, 20], 22⟩,
    ⟨[255, 255, 21], 22⟩, ⟨[255, 255, 89], 23⟩, ⟨[255, 255, 22], 22⟩, ⟨[255, 255, 90], 23⟩,
    ⟨[255, 255, 91], 23⟩, ⟨[255, 255, 92], 23⟩, ⟨[255, 255, 93], 23⟩, ⟨[255, 255, 94], 23⟩,
    ⟨[255, 255, 235], 24⟩, ⟨[255, 255, 95], 23⟩, ⟨[255, 255, 236], 24⟩, ⟨[255, 255, 237], 24⟩,
    ⟨[255, 255, 23], 22⟩, ⟨[255, 255, 96], 23⟩, ⟨[255, 255, 238], 24⟩, ⟨[255, 255, 97], 23⟩,
    ⟨[255, 255, 98], 23⟩, ⟨[255, 255, 99], 23⟩, ⟨[255, 255, 100], 23⟩, ⟨[255, 254, 28], 21⟩,
    ⟨[255, 255, 24], 22⟩, ⟨[255, 255, 101], 23⟩, ⟨[255, 255, 25], 22⟩, ⟨[255, 255, 102], 23⟩,
    ⟨[255, 255, 103], 23⟩, ⟨[255, 255, 239], 24⟩, ⟨[255, 255, 26], 22⟩, ⟨[255, 254, 29], 21⟩,
    ⟨[255, 254, 9], 20⟩, ⟨[255, 255, 27], 22⟩, ⟨[255, 255, 28], 22⟩, ⟨[255, 255, 104], 23⟩,
    ⟨[255, 255, 105], 23⟩, ⟨[255, 254, 30], 21⟩, ⟨[255, 255, 106], 23⟩, ⟨[255, 255, 29], 22⟩,
    ⟨[255, 255, 30], 22⟩, ⟨[255, 255, 240], 24⟩, ⟨[255, 254, 31], 21⟩, ⟨[255, 255, 31], 22⟩,
    ⟨[255, 255, 107], 23⟩, ⟨[255, 255, 108], 23⟩, ⟨[255, 255, 0], 21⟩, ⟨[255, 255, 1], 21⟩,
    ⟨[255, 255, 32], 22⟩, ⟨[255, 255, 2], 21⟩, ⟨[255, 255, 109], 23⟩, ⟨[255, 255, 33], 22⟩,
    ⟨[255, 255, 110], 23⟩, ⟨[255, 255, 111], 23⟩, ⟨[255, 254, 10], 20⟩, ⟨[255, 255, 34], 22⟩,
    ⟨[255, 255, 35], 22⟩, ⟨[255, 255, 36], 22⟩, ⟨[255, 255, 112], 23⟩, ⟨[255, 255, 37], 22⟩,
    ⟨[255, 255, 38], 22⟩, ⟨[255, 255, 113], 23⟩, ⟨[255, 255, 248, 0], 26⟩, ⟨[255, 255, 248, 1], 26⟩,
    ⟨[255, 254, 11], 20⟩, ⟨[255, 254, 1], 19⟩, ⟨[255, 255, 39], 22⟩, ⟨[255, 255, 114], 23⟩,
    ⟨[255, 255, 40], 22⟩, ⟨[255, 255, 246, 0], 25⟩, ⟨[255, 255, 248, 2], 26⟩, ⟨[255, 255, 248, 3], 26⟩,
    ⟨[255, 255, 249, 0], 26⟩, ⟨[255, 255, 251, 6], 27⟩, ⟨[255, 255, 251, 7], 27⟩, ⟨[255, 255, 249, 1], 26⟩,
    ⟨[255, 255, 241], 24⟩, ⟨[255, 255, 246, 1], 25⟩, ⟨[255, 254, 2], 19⟩, ⟨[255, 255, 3], 21⟩,
    ⟨[255, 255, 249, 2], 26⟩, ⟨[255, 255, 252, 0], 27⟩, ⟨[255, 255, 252, 1], 27⟩, ⟨[255, 255, 249, 3], 26⟩,
    ⟨[255, 255, 252, 2], 27⟩, ⟨[255, 255, 242], 24⟩, ⟨[255, 255, 4], 21⟩, ⟨[255, 255, 5], 21⟩,
    ⟨[255, 255, 250, 0], 26⟩, ⟨[255, 255, 250, 1], 26⟩, ⟨[255, 255, 255, 13], 28⟩, ⟨[255, 255, 252, 3], 27⟩,
    ⟨[255, 255, 252, 4], 27⟩, ⟨[255, 255, 252, 5], 27⟩, ⟨[255, 254, 12], 20⟩, ⟨[255, 255, 243], 24⟩,
    ⟨[255, 254, 13], 20⟩, ⟨[255, 255, 6], 21⟩, ⟨[255, 255, 41], 22⟩, ⟨[255, 255, 7], 21⟩,
    ⟨[255, 255, 8], 21⟩, ⟨[255, 255, 115], 23⟩, ⟨[255, 255, 42], 22⟩, ⟨[255, 255, 43], 22⟩,
    ⟨[255, 255, 247, 0], 25⟩, ⟨[255, 255, 247, 1], 25⟩, ⟨[255, 255, 244], 24⟩, ⟨[255, 255, 245], 24⟩,
    ⟨[255, 255, 250, 2], 26⟩, ⟨[255, 255, 116], 23⟩, ⟨[255, 255, 250, 3], 26⟩, ⟨[255, 255, 252, 6], 27⟩,
    ⟨[255, 255, 251, 0], 26⟩, ⟨[255, 255, 251, 1], 26⟩, ⟨[255, 255, 252, 7], 27⟩, ⟨[255, 255, 253, 0], 27⟩,
    ⟨[255, 255, 253, 1], 27⟩, ⟨[255, 255, 253, 2], 27⟩, ⟨[255, 255, 253, 3], 27⟩, ⟨[255, 255, 255, 14], 28⟩,
    ⟨[255, 255, 253, 4], 27⟩, ⟨[255, 255, 253, 5], 27⟩, ⟨[255, 255, 253, 6], 27⟩, ⟨[255, 255, 253, 7], 27⟩,
    ⟨[255, 255, 254, 0], 27⟩, ⟨[255, 255, 251, 2], 26⟩
  ]

def encodeValue (symbol : UInt8) : EncodeValue := hpackString.getD symbol.toNat ⟨[], 0⟩

/-- `DecodeValue`: `Sym`, or `Partial` with the decoder it refers to. -/
abbrev DecodeValue := LookupTree UInt8

/-- The macro `bits_decode!`: a decoder of a width, its symbols before its partial entries. -/
def bitsDecode (lookup : Nat) (symbols : List UInt8) (partials : List DecodeValue) : DecodeValue :=
  .table lookup (symbols.map .symbol ++ partials)

def end0_01010 : DecodeValue := bitsDecode 1 [32, 37] []
def end0_01011 : DecodeValue := bitsDecode 1 [45, 46] []
def end0_01100 : DecodeValue := bitsDecode 1 [47, 51] []
def end0_01101 : DecodeValue := bitsDecode 1 [52, 53] []
def end0_01110 : DecodeValue := bitsDecode 1 [54, 55] []
def end0_01111 : DecodeValue := bitsDecode 1 [56, 57] []
def end0_10000 : DecodeValue := bitsDecode 1 [61, 65] []
def end0_10001 : DecodeValue := bitsDecode 1 [95, 98] []
def end0_10010 : DecodeValue := bitsDecode 1 [100, 102] []
def end0_10011 : DecodeValue := bitsDecode 1 [103, 104] []
def end0_10100 : DecodeValue := bitsDecode 1 [108, 109] []
def end0_10101 : DecodeValue := bitsDecode 1 [110, 112] []
def end0_10110 : DecodeValue := bitsDecode 1 [114, 117] []
def end0_10111 : DecodeValue := bitsDecode 2 [58, 66, 67, 68] []
def end0_11000 : DecodeValue := bitsDecode 2 [69, 70, 71, 72] []
def end0_11001 : DecodeValue := bitsDecode 2 [73, 74, 75, 76] []
def end0_11010 : DecodeValue := bitsDecode 2 [77, 78, 79, 80] []
def end0_11011 : DecodeValue := bitsDecode 2 [81, 82, 83, 84] []
def end0_11100 : DecodeValue := bitsDecode 2 [85, 86, 87, 89] []
def end0_11101 : DecodeValue := bitsDecode 2 [106, 107, 113, 118] []
def end0_11110 : DecodeValue := bitsDecode 2 [119, 120, 121, 122] []
def end5_00 : DecodeValue := bitsDecode 1 [38, 42] []
def end5_01 : DecodeValue := bitsDecode 1 [44, 59] []
def end5_10 : DecodeValue := bitsDecode 1 [88, 90] []
def end7_0 : DecodeValue := bitsDecode 2 [33, 34, 40, 41] []
def end9A_1 : DecodeValue := bitsDecode 1 [39, 43] []
def end8_0 : DecodeValue := bitsDecode 1 [63] [end9A_1]
def end9B_01 : DecodeValue := bitsDecode 1 [35, 62] []
def end9B_10 : DecodeValue := bitsDecode 2 [0, 36, 64, 91] []
def end13_10 : DecodeValue := bitsDecode 1 [94, 125] []
def end14_0 : DecodeValue := bitsDecode 1 [60, 96] []
def end19_0011 : DecodeValue := bitsDecode 1 [128, 130] []
def end19_0100 : DecodeValue := bitsDecode 1 [131, 162] []
def end19_0101 : DecodeValue := bitsDecode 1 [184, 194] []
def end19_0110 : DecodeValue := bitsDecode 1 [224, 226] []
def end19_0111 : DecodeValue := bitsDecode 2 [153, 161, 167, 172] []
def end19_1000 : DecodeValue := bitsDecode 2 [176, 177, 179, 209] []
def end19_1001 : DecodeValue := bitsDecode 2 [216, 217, 227, 229] []
def end19_1010_01 : DecodeValue := bitsDecode 1 [129, 132] []
def end19_1010_10 : DecodeValue := bitsDecode 1 [133, 134] []
def end19_1010_11 : DecodeValue := bitsDecode 1 [136, 146] []
def end19_1010 : DecodeValue := bitsDecode 2 [230] [end19_1010_01, end19_1010_10, end19_1010_11]
def end19_1011 : DecodeValue := bitsDecode 3 [154, 156, 160, 163, 164, 169, 170, 173] []
def end19_1100 : DecodeValue := bitsDecode 3 [178, 181, 185, 186, 187, 189, 190, 196] []
def end23A_100 : DecodeValue := bitsDecode 1 [1, 135] []
def end23A_101 : DecodeValue := bitsDecode 1 [137, 138] []
def end23A_110 : DecodeValue := bitsDecode 1 [139, 140] []
def end23A_111 : DecodeValue := bitsDecode 1 [141, 143] []
def end19_1101 : DecodeValue :=
  bitsDecode 3 [198, 228, 232, 233]
    [end23A_100, end23A_101, end23A_110, end23A_111]
def end19_1110 : DecodeValue :=
  bitsDecode 4 [147, 149, 150, 151, 152, 155, 157, 158, 165, 166, 168, 174, 175, 180, 182, 183]
    []
def end23B_0101 : DecodeValue := bitsDecode 1 [9, 142] []
def end23B_0110 : DecodeValue := bitsDecode 1 [144, 145] []
def end23B_0111 : DecodeValue := bitsDecode 1 [148, 159] []
def end23B_1000 : DecodeValue := bitsDecode 1 [171, 206] []
def end23B_1001 : DecodeValue := bitsDecode 1 [215, 225] []
def end23B_1010 : DecodeValue := bitsDecode 1 [236, 237] []
def end23B_1011 : DecodeValue := bitsDecode 2 [199, 207, 234, 235] []
def end23B_1100 : DecodeValue := bitsDecode 3 [192, 193, 200, 201, 202, 205, 210, 213] []
def end27A_111 : DecodeValue := bitsDecode 1 [203, 204] []
def end23B_1101 : DecodeValue := bitsDecode 3 [218, 219, 238, 240, 242, 243, 255] [end27A_111]
def end23B_1110 : DecodeValue :=
  bitsDecode 4 [211, 212, 214, 221, 222, 223, 241, 244, 245, 246, 247, 248, 250, 251, 252, 253]
    []
def end27B_0001 : DecodeValue := bitsDecode 1 [2, 3] []
def end27B_0010 : DecodeValue := bitsDecode 1 [4, 5] []
def end27B_0011 : DecodeValue := bitsDecode 1 [6, 7] []
def end27B_0100 : DecodeValue := bitsDecode 1 [8, 11] []
def end27B_0101 : DecodeValue := bitsDecode 1 [12, 14] []
def end27B_0110 : DecodeValue := bitsDecode 1 [15, 16] []
def end27B_0111 : DecodeValue := bitsDecode 1 [17, 18] []
def end27B_1000 : DecodeValue := bitsDecode 1 [19, 20] []
def end27B_1001 : DecodeValue := bitsDecode 1 [21, 23] []
def end27B_1010 : DecodeValue := bitsDecode 1 [24, 25] []
def end27B_1011 : DecodeValue := bitsDecode 1 [26, 27] []
def end27B_1100 : DecodeValue := bitsDecode 1 [28, 29] []
def end27B_1101 : DecodeValue := bitsDecode 1 [30, 31] []
def end27B_1110 : DecodeValue := bitsDecode 1 [127, 220] []
def eof : DecodeValue := bitsDecode 8 [] []
def end31_1 : DecodeValue := bitsDecode 2 [10, 13, 22] [eof]
def end27B_1111 : DecodeValue := bitsDecode 1 [249] [end31_1]
def end23B_1111 : DecodeValue :=
  bitsDecode 4 [254]
    [end27B_0001, end27B_0010, end27B_0011, end27B_0100, end27B_0101, end27B_0110, end27B_0111, end27B_1000,
     end27B_1001, end27B_1010, end27B_1011, end27B_1100, end27B_1101, end27B_1110, end27B_1111]
def end19_1111 : DecodeValue :=
  bitsDecode 4 [188, 191, 197, 231, 239]
    [end23B_0101, end23B_0110, end23B_0111, end23B_1000, end23B_1001, end23B_1010, end23B_1011, end23B_1100,
     end23B_1101, end23B_1110, end23B_1111]
def end15_1 : DecodeValue :=
  bitsDecode 4 [92, 195, 208]
    [end19_0011, end19_0100, end19_0101, end19_0110, end19_0111, end19_1000, end19_1001, end19_1010,
     end19_1011, end19_1100, end19_1101, end19_1110, end19_1111]
def end14_1 : DecodeValue := bitsDecode 1 [123] [end15_1]
def end13_11 : DecodeValue := bitsDecode 1 [] [end14_0, end14_1]
def end9B_11 : DecodeValue := bitsDecode 2 [93, 126] [end13_10, end13_11]
def end8_1 : DecodeValue := bitsDecode 2 [124] [end9B_01, end9B_10, end9B_11]
def end7_1 : DecodeValue := bitsDecode 1 [] [end8_0, end8_1]
def end5_11 : DecodeValue := bitsDecode 1 [] [end7_0, end7_1]
def end0_11111 : DecodeValue := bitsDecode 2 [] [end5_00, end5_01, end5_10, end5_11]
def hpackStringDecoder : DecodeValue :=
  bitsDecode 5 [48, 49, 50, 97, 99, 101, 105, 111, 115, 116]
    [end0_01010, end0_01011, end0_01100, end0_01101, end0_01110, end0_01111, end0_10000, end0_10001,
     end0_10010, end0_10011, end0_10100, end0_10101, end0_10110, end0_10111, end0_11000, end0_11001,
     end0_11010, end0_11011, end0_11100, end0_11101, end0_11110, end0_11111]

/-- The bits `put` writes for a code in parts. -/
def partBits : Nat → List UInt8 → List Bool
  | _, [] => []
  | rest, part :: parts =>
      let count := if rest < 8 then rest else 8
      lowBits count part.toNat ++ partBits (rest - count) parts

def code (symbol : UInt8) : List Bool := partBits (encodeValue symbol).bitCount (encodeValue symbol).buffer

def codeRows : List (List Bool × UInt8) :=
  hpackString.zipIdx.map fun row => (partBits row.1.bitCount row.1.buffer, UInt8.ofNat row.2)

theorem length_hpackString : hpackString.length = 256 := by
  decide +kernel

theorem getElem?_hpackString (symbol : UInt8) : hpackString[symbol.toNat]? = some (encodeValue symbol) := by
  have inside : symbol.toNat < hpackString.length := by
    rw [length_hpackString]
    exact symbol.toNat_lt
  rw [encodeValue, List.getD_eq_getElem _ _ inside, List.getElem?_eq_getElem inside]

theorem mem_codeRows {string : List Bool} {symbol : UInt8} :
    (string, symbol) ∈ codeRows ↔ string = code symbol := by
  constructor
  · intro listed
    obtain ⟨⟨row, index⟩, found, same⟩ := List.mem_map.mp listed
    have placed : hpackString[index]? = some row := List.mem_zipIdx_iff_getElem?.mp found
    have inside : index < 256 := by
      rw [← length_hpackString]
      exact (List.getElem?_eq_some_iff.mp placed).1
    obtain ⟨rfl, rfl⟩ := Prod.mk.inj same
    have position : (UInt8.ofNat index).toNat = index := by
      rw [UInt8.toNat_ofNat']
      omega
    have entry := getElem?_hpackString (UInt8.ofNat index)
    rw [position, placed] at entry
    rw [code, ← Option.some.inj entry]
  · rintro rfl
    refine List.mem_map.mpr ⟨(encodeValue symbol, symbol.toNat), ?_, by rw [UInt8.ofNat_toNat]; rfl⟩
    exact List.mem_zipIdx_iff_getElem?.mpr (getElem?_hpackString symbol)

theorem sorted_codes :
    hpackStringDecoder.codes.insertionSort (fun left right => left.2.toNat ≤ right.2.toNat) = codeRows := by
  decide +kernel

/-- The decoder's tables have the encoder's code of every byte, and no other code. -/
theorem mem_codes {string : List Bool} {symbol : UInt8} :
    (string, symbol) ∈ hpackStringDecoder.codes ↔ string = code symbol := by
  rw [← mem_codeRows, ← sorted_codes]
  exact (List.perm_insertionSort _ _).mem_iff.symm

def admittedTable (width count : Nat) : Bool := decide (0 < width ∧ width ≤ 8 ∧ count ≤ 2 ^ width)

theorem tables_hpackStringDecoder : hpackStringDecoder.tables admittedTable = true := by
  decide +kernel

theorem walk_code (symbol : UInt8) : hpackStringDecoder.walk (code symbol) = .symbol symbol [] := by
  apply LookupTree.walk_of_mem_codes _ _ tables_hpackStringDecoder (mem_codes.mpr rfl)
  exact fun _ _ admitted => (of_decide_eq_true admitted).2.2

theorem encodeValue_shape (symbol : UInt8) :
    (encodeValue symbol).buffer.length = ((encodeValue symbol).bitCount + 7) / 8 ∧
      0 < (encodeValue symbol).bitCount ∧ (encodeValue symbol).bitCount ≤ 30 := by
  have rows : hpackString.all (fun row => decide
      (row.buffer.length = (row.bitCount + 7) / 8 ∧ 0 < row.bitCount ∧ row.bitCount ≤ 30)) = true := by
    decide +kernel
  exact of_decide_eq_true (List.all_eq_true.mp rows _ (List.mem_of_getElem? (getElem?_hpackString symbol)))

end ProxyTunnels.Http3.Qpack
