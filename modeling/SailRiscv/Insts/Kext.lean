/-
# Scalar cryptography

`riscv_types_kext.sail`, `riscv_insts_zkn.sail`, `riscv_insts_zks.sail`,
`riscv_insts_zbkb.sail` and `riscv_insts_zbkx.sail`.
-/
import SailRiscv.Insts.Common

namespace SailRiscv

open Bits Platform

/-! ## Shared functions -/

/-- `xt2`: multiplication by the generator of the AES field. -/
def xt2 (x : BitVec 8) : BitVec 8 := x <<< 1 ^^^ (if x.getLsbD 7 then 0x1b#8 else 0x00#8)

/-- `xt3`. -/
def xt3 (x : BitVec 8) : BitVec 8 := x ^^^ xt2 x

/-- `gfmul`: multiplication of a field element by a 4-bit value. -/
def gfmul (x : BitVec 8) (y : BitVec 4) : BitVec 8 :=
  (if y.getLsbD 0 then x else 0x00#8) ^^^ (if y.getLsbD 1 then xt2 x else 0x00#8)
    ^^^ (if y.getLsbD 2 then xt2 (xt2 x) else 0x00#8)
    ^^^ (if y.getLsbD 3 then xt2 (xt2 (xt2 x)) else 0x00#8)

/-- `aes_mixcolumn_byte_fwd`. -/
def aesMixcolumnByteFwd (so : BitVec 8) : BitVec 32 :=
  gfmul so 0x3#4 ++ so ++ so ++ gfmul so 0x2#4

/-- `aes_mixcolumn_byte_inv`. -/
def aesMixcolumnByteInv (so : BitVec 8) : BitVec 32 :=
  gfmul so 0xb#4 ++ gfmul so 0xd#4 ++ gfmul so 0x9#4 ++ gfmul so 0xe#4

/-- `aes_mixcolumn_fwd`. -/
def aesMixcolumnFwd (x : BitVec 32) : BitVec 32 :=
  let s0 := bits x 0 8
  let s1 := bits x 8 8
  let s2 := bits x 16 8
  let s3 := bits x 24 8
  let b0 := xt2 s0 ^^^ xt3 s1 ^^^ s2 ^^^ s3
  let b1 := s0 ^^^ xt2 s1 ^^^ xt3 s2 ^^^ s3
  let b2 := s0 ^^^ s1 ^^^ xt2 s2 ^^^ xt3 s3
  let b3 := xt3 s0 ^^^ s1 ^^^ s2 ^^^ xt2 s3
  b3 ++ b2 ++ b1 ++ b0

/-- `aes_mixcolumn_inv`. -/
def aesMixcolumnInv (x : BitVec 32) : BitVec 32 :=
  let s0 := bits x 0 8
  let s1 := bits x 8 8
  let s2 := bits x 16 8
  let s3 := bits x 24 8
  let b0 := gfmul s0 0xE#4 ^^^ gfmul s1 0xB#4 ^^^ gfmul s2 0xD#4 ^^^ gfmul s3 0x9#4
  let b1 := gfmul s0 0x9#4 ^^^ gfmul s1 0xE#4 ^^^ gfmul s2 0xB#4 ^^^ gfmul s3 0xD#4
  let b2 := gfmul s0 0xD#4 ^^^ gfmul s1 0x9#4 ^^^ gfmul s2 0xE#4 ^^^ gfmul s3 0xB#4
  let b3 := gfmul s0 0xB#4 ^^^ gfmul s1 0xD#4 ^^^ gfmul s2 0x9#4 ^^^ gfmul s3 0xE#4
  b3 ++ b2 ++ b1 ++ b0

/-- `aes_decode_rcon`. -/
def aesDecodeRcon (r : BitVec 4) : Except ModelError (BitVec 32) :=
  if ¬ r < 0xA#4 then .error (.assertFailed "")
  else if r = 0x0#4 then .ok 0x00000001#32
  else if r = 0x1#4 then .ok 0x00000002#32
  else if r = 0x2#4 then .ok 0x00000004#32
  else if r = 0x3#4 then .ok 0x00000008#32
  else if r = 0x4#4 then .ok 0x00000010#32
  else if r = 0x5#4 then .ok 0x00000020#32
  else if r = 0x6#4 then .ok 0x00000040#32
  else if r = 0x7#4 then .ok 0x00000080#32
  else if r = 0x8#4 then .ok 0x0000001b#32
  else if r = 0x9#4 then .ok 0x00000036#32
  else .error (.internalError "Unexpected AES r")

/-- `sm4_sbox_table`. -/
def sm4SboxTable : List ℕ := [
  0xd6, 0x90, 0xe9, 0xfe, 0xcc, 0xe1, 0x3d, 0xb7, 0x16, 0xb6, 0x14, 0xc2, 0x28, 0xfb, 0x2c, 0x05,
  0x2b, 0x67, 0x9a, 0x76, 0x2a, 0xbe, 0x04, 0xc3, 0xaa, 0x44, 0x13, 0x26, 0x49, 0x86, 0x06, 0x99,
  0x9c, 0x42, 0x50, 0xf4, 0x91, 0xef, 0x98, 0x7a, 0x33, 0x54, 0x0b, 0x43, 0xed, 0xcf, 0xac, 0x62,
  0xe4, 0xb3, 0x1c, 0xa9, 0xc9, 0x08, 0xe8, 0x95, 0x80, 0xdf, 0x94, 0xfa, 0x75, 0x8f, 0x3f, 0xa6,
  0x47, 0x07, 0xa7, 0xfc, 0xf3, 0x73, 0x17, 0xba, 0x83, 0x59, 0x3c, 0x19, 0xe6, 0x85, 0x4f, 0xa8,
  0x68, 0x6b, 0x81, 0xb2, 0x71, 0x64, 0xda, 0x8b, 0xf8, 0xeb, 0x0f, 0x4b, 0x70, 0x56, 0x9d, 0x35,
  0x1e, 0x24, 0x0e, 0x5e, 0x63, 0x58, 0xd1, 0xa2, 0x25, 0x22, 0x7c, 0x3b, 0x01, 0x21, 0x78, 0x87,
  0xd4, 0x00, 0x46, 0x57, 0x9f, 0xd3, 0x27, 0x52, 0x4c, 0x36, 0x02, 0xe7, 0xa0, 0xc4, 0xc8, 0x9e,
  0xea, 0xbf, 0x8a, 0xd2, 0x40, 0xc7, 0x38, 0xb5, 0xa3, 0xf7, 0xf2, 0xce, 0xf9, 0x61, 0x15, 0xa1,
  0xe0, 0xae, 0x5d, 0xa4, 0x9b, 0x34, 0x1a, 0x55, 0xad, 0x93, 0x32, 0x30, 0xf5, 0x8c, 0xb1, 0xe3,
  0x1d, 0xf6, 0xe2, 0x2e, 0x82, 0x66, 0xca, 0x60, 0xc0, 0x29, 0x23, 0xab, 0x0d, 0x53, 0x4e, 0x6f,
  0xd5, 0xdb, 0x37, 0x45, 0xde, 0xfd, 0x8e, 0x2f, 0x03, 0xff, 0x6a, 0x72, 0x6d, 0x6c, 0x5b, 0x51,
  0x8d, 0x1b, 0xaf, 0x92, 0xbb, 0xdd, 0xbc, 0x7f, 0x11, 0xd9, 0x5c, 0x41, 0x1f, 0x10, 0x5a, 0xd8,
  0x0a, 0xc1, 0x31, 0x88, 0xa5, 0xcd, 0x7b, 0xbd, 0x2d, 0x74, 0xd0, 0x12, 0xb8, 0xe5, 0xb4, 0xb0,
  0x89, 0x69, 0x97, 0x4a, 0x0c, 0x96, 0x77, 0x7e, 0x65, 0xb9, 0xf1, 0x09, 0xc5, 0x6e, 0xc6, 0x84,
  0x18, 0xf0, 0x7d, 0xec, 0x3a, 0xdc, 0x4d, 0x20, 0x79, 0xee, 0x5f, 0x3e, 0xd7, 0xcb, 0x39, 0x48]

/-- `aes_sbox_fwd_table`. -/
def aesSboxFwdTable : List ℕ := [
  0x63, 0x7c, 0x77, 0x7b, 0xf2, 0x6b, 0x6f, 0xc5, 0x30, 0x01, 0x67, 0x2b, 0xfe, 0xd7, 0xab, 0x76,
  0xca, 0x82, 0xc9, 0x7d, 0xfa, 0x59, 0x47, 0xf0, 0xad, 0xd4, 0xa2, 0xaf, 0x9c, 0xa4, 0x72, 0xc0,
  0xb7, 0xfd, 0x93, 0x26, 0x36, 0x3f, 0xf7, 0xcc, 0x34, 0xa5, 0xe5, 0xf1, 0x71, 0xd8, 0x31, 0x15,
  0x04, 0xc7, 0x23, 0xc3, 0x18, 0x96, 0x05, 0x9a, 0x07, 0x12, 0x80, 0xe2, 0xeb, 0x27, 0xb2, 0x75,
  0x09, 0x83, 0x2c, 0x1a, 0x1b, 0x6e, 0x5a, 0xa0, 0x52, 0x3b, 0xd6, 0xb3, 0x29, 0xe3, 0x2f, 0x84,
  0x53, 0xd1, 0x00, 0xed, 0x20, 0xfc, 0xb1, 0x5b, 0x6a, 0xcb, 0xbe, 0x39, 0x4a, 0x4c, 0x58, 0xcf,
  0xd0, 0xef, 0xaa, 0xfb, 0x43, 0x4d, 0x33, 0x85, 0x45, 0xf9, 0x02, 0x7f, 0x50, 0x3c, 0x9f, 0xa8,
  0x51, 0xa3, 0x40, 0x8f, 0x92, 0x9d, 0x38, 0xf5, 0xbc, 0xb6, 0xda, 0x21, 0x10, 0xff, 0xf3, 0xd2,
  0xcd, 0x0c, 0x13, 0xec, 0x5f, 0x97, 0x44, 0x17, 0xc4, 0xa7, 0x7e, 0x3d, 0x64, 0x5d, 0x19, 0x73,
  0x60, 0x81, 0x4f, 0xdc, 0x22, 0x2a, 0x90, 0x88, 0x46, 0xee, 0xb8, 0x14, 0xde, 0x5e, 0x0b, 0xdb,
  0xe0, 0x32, 0x3a, 0x0a, 0x49, 0x06, 0x24, 0x5c, 0xc2, 0xd3, 0xac, 0x62, 0x91, 0x95, 0xe4, 0x79,
  0xe7, 0xc8, 0x37, 0x6d, 0x8d, 0xd5, 0x4e, 0xa9, 0x6c, 0x56, 0xf4, 0xea, 0x65, 0x7a, 0xae, 0x08,
  0xba, 0x78, 0x25, 0x2e, 0x1c, 0xa6, 0xb4, 0xc6, 0xe8, 0xdd, 0x74, 0x1f, 0x4b, 0xbd, 0x8b, 0x8a,
  0x70, 0x3e, 0xb5, 0x66, 0x48, 0x03, 0xf6, 0x0e, 0x61, 0x35, 0x57, 0xb9, 0x86, 0xc1, 0x1d, 0x9e,
  0xe1, 0xf8, 0x98, 0x11, 0x69, 0xd9, 0x8e, 0x94, 0x9b, 0x1e, 0x87, 0xe9, 0xce, 0x55, 0x28, 0xdf,
  0x8c, 0xa1, 0x89, 0x0d, 0xbf, 0xe6, 0x42, 0x68, 0x41, 0x99, 0x2d, 0x0f, 0xb0, 0x54, 0xbb, 0x16]

/-- `aes_sbox_inv_table`. -/
def aesSboxInvTable : List ℕ := [
  0x52, 0x09, 0x6a, 0xd5, 0x30, 0x36, 0xa5, 0x38, 0xbf, 0x40, 0xa3, 0x9e, 0x81, 0xf3, 0xd7, 0xfb,
  0x7c, 0xe3, 0x39, 0x82, 0x9b, 0x2f, 0xff, 0x87, 0x34, 0x8e, 0x43, 0x44, 0xc4, 0xde, 0xe9, 0xcb,
  0x54, 0x7b, 0x94, 0x32, 0xa6, 0xc2, 0x23, 0x3d, 0xee, 0x4c, 0x95, 0x0b, 0x42, 0xfa, 0xc3, 0x4e,
  0x08, 0x2e, 0xa1, 0x66, 0x28, 0xd9, 0x24, 0xb2, 0x76, 0x5b, 0xa2, 0x49, 0x6d, 0x8b, 0xd1, 0x25,
  0x72, 0xf8, 0xf6, 0x64, 0x86, 0x68, 0x98, 0x16, 0xd4, 0xa4, 0x5c, 0xcc, 0x5d, 0x65, 0xb6, 0x92,
  0x6c, 0x70, 0x48, 0x50, 0xfd, 0xed, 0xb9, 0xda, 0x5e, 0x15, 0x46, 0x57, 0xa7, 0x8d, 0x9d, 0x84,
  0x90, 0xd8, 0xab, 0x00, 0x8c, 0xbc, 0xd3, 0x0a, 0xf7, 0xe4, 0x58, 0x05, 0xb8, 0xb3, 0x45, 0x06,
  0xd0, 0x2c, 0x1e, 0x8f, 0xca, 0x3f, 0x0f, 0x02, 0xc1, 0xaf, 0xbd, 0x03, 0x01, 0x13, 0x8a, 0x6b,
  0x3a, 0x91, 0x11, 0x41, 0x4f, 0x67, 0xdc, 0xea, 0x97, 0xf2, 0xcf, 0xce, 0xf0, 0xb4, 0xe6, 0x73,
  0x96, 0xac, 0x74, 0x22, 0xe7, 0xad, 0x35, 0x85, 0xe2, 0xf9, 0x37, 0xe8, 0x1c, 0x75, 0xdf, 0x6e,
  0x47, 0xf1, 0x1a, 0x71, 0x1d, 0x29, 0xc5, 0x89, 0x6f, 0xb7, 0x62, 0x0e, 0xaa, 0x18, 0xbe, 0x1b,
  0xfc, 0x56, 0x3e, 0x4b, 0xc6, 0xd2, 0x79, 0x20, 0x9a, 0xdb, 0xc0, 0xfe, 0x78, 0xcd, 0x5a, 0xf4,
  0x1f, 0xdd, 0xa8, 0x33, 0x88, 0x07, 0xc7, 0x31, 0xb1, 0x12, 0x10, 0x59, 0x27, 0x80, 0xec, 0x5f,
  0x60, 0x51, 0x7f, 0xa9, 0x19, 0xb5, 0x4a, 0x0d, 0x2d, 0xe5, 0x7a, 0x9f, 0x93, 0xc9, 0x9c, 0xef,
  0xa0, 0xe0, 0x3b, 0x4d, 0xae, 0x2a, 0xf5, 0xb0, 0xc8, 0xeb, 0xbb, 0x3c, 0x83, 0x53, 0x99, 0x61,
  0x17, 0x2b, 0x04, 0x7e, 0xba, 0x77, 0xd6, 0x26, 0xe1, 0x69, 0x14, 0x63, 0x55, 0x21, 0x0c, 0x7d]

/-- `sbox_lookup`. -/
def sboxLookup (x : BitVec 8) (table : List ℕ) : BitVec 8 := BitVec.ofNat 8 (table.getD x.toNat 0)

/-- `aes_sbox_fwd`. -/
def aesSboxFwd (x : BitVec 8) : BitVec 8 := sboxLookup x aesSboxFwdTable

/-- `aes_sbox_inv`. -/
def aesSboxInv (x : BitVec 8) : BitVec 8 := sboxLookup x aesSboxInvTable

/-- `sm4_sbox`. -/
def sm4Sbox (x : BitVec 8) : BitVec 8 := sboxLookup x sm4SboxTable

/-- `aes_subword_fwd`. -/
def aesSubwordFwd (x : BitVec 32) : BitVec 32 :=
  aesSboxFwd (bits x 24 8) ++ aesSboxFwd (bits x 16 8) ++ aesSboxFwd (bits x 8 8)
    ++ aesSboxFwd (bits x 0 8)

/-- `aes_apply_fwd_sbox_to_each_byte`. -/
def aesApplyFwdSboxToEachByte (x : BitVec 64) : BitVec 64 :=
  aesSboxFwd (bits x 56 8) ++ aesSboxFwd (bits x 48 8) ++ aesSboxFwd (bits x 40 8)
    ++ aesSboxFwd (bits x 32 8) ++ aesSboxFwd (bits x 24 8) ++ aesSboxFwd (bits x 16 8)
    ++ aesSboxFwd (bits x 8 8) ++ aesSboxFwd (bits x 0 8)

/-- `aes_apply_inv_sbox_to_each_byte`. -/
def aesApplyInvSboxToEachByte (x : BitVec 64) : BitVec 64 :=
  aesSboxInv (bits x 56 8) ++ aesSboxInv (bits x 48 8) ++ aesSboxInv (bits x 40 8)
    ++ aesSboxInv (bits x 32 8) ++ aesSboxInv (bits x 24 8) ++ aesSboxInv (bits x 16 8)
    ++ aesSboxInv (bits x 8 8) ++ aesSboxInv (bits x 0 8)

/-- `getbyte`. -/
def getbyte (x : BitVec 64) (i : ℕ) : BitVec 8 := bits (x >>> BitVec.ofNat 6 (i * 8)) 0 8

/-- `aes_rv64_shiftrows_fwd`. -/
def aesRv64ShiftrowsFwd (rs2 rs1 : BitVec 64) : BitVec 64 :=
  getbyte rs1 3 ++ getbyte rs2 6 ++ getbyte rs2 1 ++ getbyte rs1 4 ++ getbyte rs2 7
    ++ getbyte rs2 2 ++ getbyte rs1 5 ++ getbyte rs1 0

/-- `aes_rv64_shiftrows_inv`. -/
def aesRv64ShiftrowsInv (rs2 rs1 : BitVec 64) : BitVec 64 :=
  getbyte rs2 3 ++ getbyte rs2 6 ++ getbyte rs1 1 ++ getbyte rs1 4 ++ getbyte rs1 7
    ++ getbyte rs2 2 ++ getbyte rs2 5 ++ getbyte rs1 0

/-- `rotater`. -/
def rotater {n : ℕ} (v : BitVec n) (k : ℕ) : BitVec n := v >>> k ||| v <<< (n - k)

/-- `rotatel`. -/
def rotatel {n : ℕ} (v : BitVec n) (k : ℕ) : BitVec n := v <<< k ||| v >>> (n - k)

/-! ## Syntax -/

/-- The clauses of `ast` for the NIST algorithm suite. -/
inductive ZknInst where
  | SHA256SIG0 (rs1 rd : Regidx)
  | SHA256SIG1 (rs1 rd : Regidx)
  | SHA256SUM0 (rs1 rd : Regidx)
  | SHA256SUM1 (rs1 rd : Regidx)
  | AES32ESMI (bs : BitVec 2) (rs2 rs1 rd : Regidx)
  | AES32ESI (bs : BitVec 2) (rs2 rs1 rd : Regidx)
  | AES32DSMI (bs : BitVec 2) (rs2 rs1 rd : Regidx)
  | AES32DSI (bs : BitVec 2) (rs2 rs1 rd : Regidx)
  | SHA512SIG0L (rs2 rs1 rd : Regidx)
  | SHA512SIG0H (rs2 rs1 rd : Regidx)
  | SHA512SIG1L (rs2 rs1 rd : Regidx)
  | SHA512SIG1H (rs2 rs1 rd : Regidx)
  | SHA512SUM0R (rs2 rs1 rd : Regidx)
  | SHA512SUM1R (rs2 rs1 rd : Regidx)
  | AES64KS1I (rnum : BitVec 4) (rs1 rd : Regidx)
  | AES64KS2 (rs2 rs1 rd : Regidx)
  | AES64IM (rs1 rd : Regidx)
  | AES64ESM (rs2 rs1 rd : Regidx)
  | AES64ES (rs2 rs1 rd : Regidx)
  | AES64DSM (rs2 rs1 rd : Regidx)
  | AES64DS (rs2 rs1 rd : Regidx)
  | SHA512SIG0 (rs1 rd : Regidx)
  | SHA512SIG1 (rs1 rd : Regidx)
  | SHA512SUM0 (rs1 rd : Regidx)
  | SHA512SUM1 (rs1 rd : Regidx)
  deriving DecidableEq, Repr

/-- The clauses of `ast` for the ShangMi algorithm suite. -/
inductive ZksInst where
  | SM3P0 (rs1 rd : Regidx)
  | SM3P1 (rs1 rd : Regidx)
  | SM4ED (bs : BitVec 2) (rs2 rs1 rd : Regidx)
  | SM4KS (bs : BitVec 2) (rs2 rs1 rd : Regidx)
  deriving DecidableEq, Repr

/-- `brop_zbkb`. -/
inductive BropZbkb where
  | RISCV_PACK | RISCV_PACKH
  deriving DecidableEq, Repr

/-- The clauses of `ast` for bit manipulation for cryptography. -/
inductive ZbkbInst where
  | ZBKB_RTYPE (rs2 rs1 rd : Regidx) (op : BropZbkb)
  | ZBKB_PACKW (rs2 rs1 rd : Regidx)
  | RISCV_ZIP (rs1 rd : Regidx)
  | RISCV_UNZIP (rs1 rd : Regidx)
  | RISCV_BREV8 (rs1 rd : Regidx)
  deriving DecidableEq, Repr

/-- The clauses of `ast` for crossbar permutations. -/
inductive ZbkxInst where
  | RISCV_XPERM8 (rs2 rs1 rd : Regidx)
  | RISCV_XPERM4 (rs2 rs1 rd : Regidx)
  deriving DecidableEq, Repr

variable [Platform]

/-! ## Decoding -/

/-- The clauses of `encdec` for the NIST algorithm suite, read backwards. -/
def ZknInst.decode (s : State) (w : BitVec 32) : Option ZknInst :=
  let rs2 := rs2Of w
  let rs1 := rs1Of w
  let rd := rdOf w
  let zknh := extensionEnabled s .Zknh
  let zkne := extensionEnabled s .Zkne
  let zknd := extensionEnabled s .Zknd
  let rv32 := decide (xlen = 32)
  let rv64 := decide (xlen = 64)
  let unary (f7 : BitVec 7) (f5 : BitVec 5) : Bool :=
    isRtype w f7 0b001#3 0b0010011#7 && rs2 == f5
  let binary (f7 : BitVec 7) : Bool := isRtype w f7 0b000#3 0b0110011#7
  let aes32 (f5 : BitVec 5) : Bool :=
    bits w 25 5 == f5 && bits w 12 3 == 0b000#3 && bits w 0 7 == 0b0110011#7
  let bs := bits w 30 2
  let rnum := bits w 20 4
  firstClause [
    clause (unary 0b0001000#7 0b00000#5 && zknh) (.SHA256SUM0 rs1 rd),
    clause (unary 0b0001000#7 0b00001#5 && zknh) (.SHA256SUM1 rs1 rd),
    clause (unary 0b0001000#7 0b00010#5 && zknh) (.SHA256SIG0 rs1 rd),
    clause (unary 0b0001000#7 0b00011#5 && zknh) (.SHA256SIG1 rs1 rd),
    clause (aes32 0b10011#5 && (zkne && rv32)) (.AES32ESMI bs rs2 rs1 rd),
    clause (aes32 0b10001#5 && (zkne && rv32)) (.AES32ESI bs rs2 rs1 rd),
    clause (aes32 0b10111#5 && (zknd && rv32)) (.AES32DSMI bs rs2 rs1 rd),
    clause (aes32 0b10101#5 && (zknd && rv32)) (.AES32DSI bs rs2 rs1 rd),
    clause (binary 0b0101000#7 && (zknh && rv32)) (.SHA512SUM0R rs2 rs1 rd),
    clause (binary 0b0101001#7 && (zknh && rv32)) (.SHA512SUM1R rs2 rs1 rd),
    clause (binary 0b0101010#7 && (zknh && rv32)) (.SHA512SIG0L rs2 rs1 rd),
    clause (binary 0b0101110#7 && (zknh && rv32)) (.SHA512SIG0H rs2 rs1 rd),
    clause (binary 0b0101011#7 && (zknh && rv32)) (.SHA512SIG1L rs2 rs1 rd),
    clause (binary 0b0101111#7 && (zknh && rv32)) (.SHA512SIG1H rs2 rs1 rd),
    clause (isRtype w 0b0011000#7 0b001#3 0b0010011#7 && bits w 24 1 == 0b1#1
      && ((zkne || zknd) && rv64 && decide (rnum < 0xB#4))) (.AES64KS1I rnum rs1 rd),
    clause (unary 0b0011000#7 0b00000#5 && (zknd && rv64)) (.AES64IM rs1 rd),
    clause (binary 0b0111111#7 && ((zkne || zknd) && rv64)) (.AES64KS2 rs2 rs1 rd),
    clause (binary 0b0011011#7 && (zkne && rv64)) (.AES64ESM rs2 rs1 rd),
    clause (binary 0b0011001#7 && (zkne && rv64)) (.AES64ES rs2 rs1 rd),
    clause (binary 0b0011111#7 && (zknd && rv64)) (.AES64DSM rs2 rs1 rd),
    clause (binary 0b0011101#7 && (zknd && rv64)) (.AES64DS rs2 rs1 rd),
    clause (unary 0b0001000#7 0b00100#5 && (zknh && rv64)) (.SHA512SUM0 rs1 rd),
    clause (unary 0b0001000#7 0b00101#5 && (zknh && rv64)) (.SHA512SUM1 rs1 rd),
    clause (unary 0b0001000#7 0b00110#5 && (zknh && rv64)) (.SHA512SIG0 rs1 rd),
    clause (unary 0b0001000#7 0b00111#5 && (zknh && rv64)) (.SHA512SIG1 rs1 rd)]

/-- The clauses of `encdec` for the ShangMi algorithm suite, read backwards. -/
def ZksInst.decode (s : State) (w : BitVec 32) : Option ZksInst :=
  let rs2 := rs2Of w
  let rs1 := rs1Of w
  let rd := rdOf w
  let unary (f5 : BitVec 5) : Bool := isRtype w 0b0001000#7 0b001#3 0b0010011#7 && rs2 == f5
  let sm4 (f5 : BitVec 5) : Bool :=
    bits w 25 5 == f5 && bits w 12 3 == 0b000#3 && bits w 0 7 == 0b0110011#7
  firstClause [
    clause (unary 0b01000#5 && extensionEnabled s .Zksh) (.SM3P0 rs1 rd),
    clause (unary 0b01001#5 && extensionEnabled s .Zksh) (.SM3P1 rs1 rd),
    clause (sm4 0b11000#5 && extensionEnabled s .Zksed) (.SM4ED (bits w 30 2) rs2 rs1 rd),
    clause (sm4 0b11010#5 && extensionEnabled s .Zksed) (.SM4KS (bits w 30 2) rs2 rs1 rd)]

/-- The clauses of `encdec` for bit manipulation for cryptography, read backwards. -/
def ZbkbInst.decode (s : State) (w : BitVec 32) : Option ZbkbInst :=
  let rs2 := rs2Of w
  let rs1 := rs1Of w
  let rd := rdOf w
  let zbkb := extensionEnabled s .Zbkb
  let unary (f12 : BitVec 12) (f3 : BitVec 3) : Bool :=
    bits w 20 12 == f12 && bits w 12 3 == f3 && bits w 0 7 == 0b0010011#7
  firstClause [
    clause (isRtype w 0b0000100#7 0b100#3 0b0110011#7 && zbkb) (.ZBKB_RTYPE rs2 rs1 rd .RISCV_PACK),
    clause (isRtype w 0b0000100#7 0b111#3 0b0110011#7 && zbkb) (.ZBKB_RTYPE rs2 rs1 rd .RISCV_PACKH),
    clause (isRtype w 0b0000100#7 0b100#3 0b0111011#7 && (zbkb && decide (xlen = 64)))
      (.ZBKB_PACKW rs2 rs1 rd),
    clause (unary 0b000010001111#12 0b001#3 && (zbkb && decide (xlen = 32))) (.RISCV_ZIP rs1 rd),
    clause (unary 0b000010001111#12 0b101#3 && (zbkb && decide (xlen = 32))) (.RISCV_UNZIP rs1 rd),
    clause (unary 0b011010000111#12 0b101#3 && zbkb) (.RISCV_BREV8 rs1 rd)]

/-- The clauses of `encdec` for crossbar permutations, read backwards. -/
def ZbkxInst.decode (s : State) (w : BitVec 32) : Option ZbkxInst :=
  let zbkx := extensionEnabled s .Zbkx
  firstClause [
    clause (isRtype w 0b0010100#7 0b100#3 0b0110011#7 && zbkx)
      (.RISCV_XPERM8 (rs2Of w) (rs1Of w) (rdOf w)),
    clause (isRtype w 0b0010100#7 0b010#3 0b0110011#7 && zbkx)
      (.RISCV_XPERM4 (rs2Of w) (rs1Of w) (rdOf w))]

/-! ## Execution -/

/-- A clause with one 32-bit operand and a sign-extended 32-bit result. -/
def unary32 (rs1 rd : Regidx) (f : BitVec 32 → BitVec 32) : M Retired := do
  retireX rd ((f (word (← rX rs1))).signExtend xlen)

/-- A clause of RV64 with one operand. -/
def unary64 (rs1 rd : Regidx) (f : BitVec 64 → BitVec 64) : M Retired := do
  assert (decide (xlen = 64)) ""
  retireX rd ((f ((← rX rs1).setWidth 64)).setWidth xlen)

/-- A clause of RV64 with two operands. -/
def binary64 (rs2 rs1 rd : Regidx) (f : BitVec 64 → BitVec 64 → BitVec 64) : M Retired := do
  assert (decide (xlen = 64)) ""
  let rs2Val := (← rX rs2).setWidth 64
  let rs1Val := (← rX rs1).setWidth 64
  retireX rd ((f rs2Val rs1Val).setWidth xlen)

/-- A clause that combines `rs1` with a function of the byte of `rs2` that `bs` selects, rotated
to its place. -/
def byteRound (bs : BitVec 2) (rs2 rs1 rd : Regidx) (f : BitVec 8 → BitVec 32) : M Retired := do
  let shamt : BitVec 5 := bs ++ 0b000#3
  let si := bits ((← rX rs2) >>> shamt) 0 8
  let result := word (← rX rs1) ^^^ rotateBitsLeft (f si) shamt
  retireX rd (result.signExtend xlen)

/-- A clause with two operands of the register width. -/
def binaryX (rs2 rs1 rd : Regidx) (f : Xlenbits → Xlenbits → Xlenbits) : M Retired := do
  retireX rd (f (← rX rs2) (← rX rs1))

/-- `execute` of the clauses for the NIST algorithm suite. -/
def ZknInst.execute : ZknInst → M Retired
  | .SHA256SIG0 rs1 rd =>
      unary32 rs1 rd (fun inb => rotater inb 7 ^^^ rotater inb 18 ^^^ inb >>> 3)
  | .SHA256SIG1 rs1 rd =>
      unary32 rs1 rd (fun inb => rotater inb 17 ^^^ rotater inb 19 ^^^ inb >>> 10)
  | .SHA256SUM0 rs1 rd =>
      unary32 rs1 rd (fun inb => rotater inb 2 ^^^ rotater inb 13 ^^^ rotater inb 22)
  | .SHA256SUM1 rs1 rd =>
      unary32 rs1 rd (fun inb => rotater inb 6 ^^^ rotater inb 11 ^^^ rotater inb 25)
  | .AES32ESMI bs rs2 rs1 rd =>
      byteRound bs rs2 rs1 rd (fun si => aesMixcolumnByteFwd (aesSboxFwd si))
  | .AES32ESI bs rs2 rs1 rd => byteRound bs rs2 rs1 rd (fun si => 0x000000#24 ++ aesSboxFwd si)
  | .AES32DSMI bs rs2 rs1 rd =>
      byteRound bs rs2 rs1 rd (fun si => aesMixcolumnByteInv (aesSboxInv si))
  | .AES32DSI bs rs2 rs1 rd => byteRound bs rs2 rs1 rd (fun si => 0x000000#24 ++ aesSboxInv si)
  | .SHA512SIG0H rs2 rs1 rd => binaryX rs2 rs1 rd (fun y x =>
      x >>> 1 ^^^ x >>> 7 ^^^ x >>> 8 ^^^ y <<< 31 ^^^ y <<< 24)
  | .SHA512SIG0L rs2 rs1 rd => binaryX rs2 rs1 rd (fun y x =>
      x >>> 1 ^^^ x >>> 7 ^^^ x >>> 8 ^^^ y <<< 31 ^^^ y <<< 25 ^^^ y <<< 24)
  | .SHA512SIG1H rs2 rs1 rd => binaryX rs2 rs1 rd (fun y x =>
      x <<< 3 ^^^ x >>> 6 ^^^ x >>> 19 ^^^ y >>> 29 ^^^ y <<< 13)
  | .SHA512SIG1L rs2 rs1 rd => binaryX rs2 rs1 rd (fun y x =>
      x <<< 3 ^^^ x >>> 6 ^^^ x >>> 19 ^^^ y >>> 29 ^^^ y <<< 26 ^^^ y <<< 13)
  | .SHA512SUM0R rs2 rs1 rd => binaryX rs2 rs1 rd (fun y x =>
      x <<< 25 ^^^ x <<< 30 ^^^ x >>> 28 ^^^ y >>> 7 ^^^ y >>> 2 ^^^ y <<< 4)
  | .SHA512SUM1R rs2 rs1 rd => binaryX rs2 rs1 rd (fun y x =>
      x <<< 23 ^^^ x >>> 14 ^^^ x >>> 18 ^^^ y >>> 9 ^^^ y <<< 18 ^^^ y <<< 14)
  | .AES64KS1I rnum rs1 rd => do
      assert (decide (xlen = 64)) ""
      let prev := bits (← rX rs1) 32 32
      let subwords := aesSubwordFwd prev
      if rnum = 0xA#4 then retireX rd ((subwords ++ subwords).setWidth xlen)
      else
        let rcon ← Exec.checks (fun _ => aesDecodeRcon rnum)
        let result := rotater subwords 8 ^^^ rcon
        retireX rd ((result ++ result).setWidth xlen)
  | .AES64KS2 rs2 rs1 rd => binary64 rs2 rs1 rd (fun y x =>
      let w0 := bits x 32 32 ^^^ bits y 0 32
      let w1 := bits x 32 32 ^^^ bits y 0 32 ^^^ bits y 32 32
      w1 ++ w0)
  | .AES64IM rs1 rd =>
      unary64 rs1 rd (fun x => aesMixcolumnInv (bits x 32 32) ++ aesMixcolumnInv (bits x 0 32))
  | .AES64ESM rs2 rs1 rd => binary64 rs2 rs1 rd (fun y x =>
      let sb := aesApplyFwdSboxToEachByte (aesRv64ShiftrowsFwd y x)
      aesMixcolumnFwd (bits sb 32 32) ++ aesMixcolumnFwd (bits sb 0 32))
  | .AES64ES rs2 rs1 rd =>
      binary64 rs2 rs1 rd (fun y x => aesApplyFwdSboxToEachByte (aesRv64ShiftrowsFwd y x))
  | .AES64DSM rs2 rs1 rd => binary64 rs2 rs1 rd (fun y x =>
      let sb := aesApplyInvSboxToEachByte (aesRv64ShiftrowsInv y x)
      aesMixcolumnInv (bits sb 32 32) ++ aesMixcolumnInv (bits sb 0 32))
  | .AES64DS rs2 rs1 rd =>
      binary64 rs2 rs1 rd (fun y x => aesApplyInvSboxToEachByte (aesRv64ShiftrowsInv y x))
  | .SHA512SIG0 rs1 rd =>
      unary64 rs1 rd (fun input => rotater input 1 ^^^ rotater input 8 ^^^ input >>> 7)
  | .SHA512SIG1 rs1 rd =>
      unary64 rs1 rd (fun input => rotater input 19 ^^^ rotater input 61 ^^^ input >>> 6)
  | .SHA512SUM0 rs1 rd =>
      unary64 rs1 rd (fun input => rotater input 28 ^^^ rotater input 34 ^^^ rotater input 39)
  | .SHA512SUM1 rs1 rd =>
      unary64 rs1 rd (fun input => rotater input 14 ^^^ rotater input 18 ^^^ rotater input 41)

/-- The round function of `SM4ED`. -/
def sm4Encrypt (x : BitVec 32) : BitVec 32 :=
  x ^^^ x <<< 8 ^^^ x <<< 2 ^^^ x <<< 18 ^^^ (x &&& 0x0000003F#32) <<< 26
    ^^^ (x &&& 0x000000C0#32) <<< 10

/-- The round function of `SM4KS`. -/
def sm4KeySchedule (x : BitVec 32) : BitVec 32 :=
  x ^^^ (x &&& 0x00000007#32) <<< 29 ^^^ (x &&& 0x000000FE#32) <<< 7
    ^^^ (x &&& 0x00000001#32) <<< 23 ^^^ (x &&& 0x000000F8#32) <<< 13

/-- A clause of `SM4`: the byte is taken from the lower word of `rs2`. -/
def sm4Round (bs : BitVec 2) (rs2 rs1 rd : Regidx) (f : BitVec 32 → BitVec 32) : M Retired := do
  let shamt : BitVec 5 := bs ++ 0b000#3
  let sbIn := bits (word (← rX rs2) >>> shamt) 0 8
  let z := rotateBitsLeft (f (0x000000#24 ++ sm4Sbox sbIn)) shamt
  let result := z ^^^ word (← rX rs1)
  retireX rd (result.signExtend xlen)

/-- `execute` of the clauses for the ShangMi algorithm suite. -/
def ZksInst.execute : ZksInst → M Retired
  | .SM3P0 rs1 rd => unary32 rs1 rd (fun r1 => r1 ^^^ rotatel r1 9 ^^^ rotatel r1 17)
  | .SM3P1 rs1 rd => unary32 rs1 rd (fun r1 => r1 ^^^ rotatel r1 15 ^^^ rotatel r1 23)
  | .SM4ED bs rs2 rs1 rd => sm4Round bs rs2 rs1 rd sm4Encrypt
  | .SM4KS bs rs2 rs1 rd => sm4Round bs rs2 rs1 rd sm4KeySchedule

/-- The match on the operation of `ZBKB_RTYPE`. -/
def BropZbkb.result (op : BropZbkb) (rs1Val rs2Val : Xlenbits) : Xlenbits :=
  match op with
  | .RISCV_PACK => (bits rs2Val 0 (xlenBytes * 4) ++ bits rs1Val 0 (xlenBytes * 4)).setWidth xlen
  | .RISCV_PACKH => (bits rs2Val 0 8 ++ bits rs1Val 0 8).setWidth xlen

/-- The loop of `RISCV_ZIP`. -/
def zipBits (v : Xlenbits) : Xlenbits :=
  forUp (xlenBytes * 4) 0#_ (fun i result =>
    setBit (setBit result (i * 2) (v.getLsbD i)) (i * 2 + 1) (v.getLsbD (i + xlenBytes * 4)))

/-- The loop of `RISCV_UNZIP`. -/
def unzipBits (v : Xlenbits) : Xlenbits :=
  forUp (xlenBytes * 4) 0#_ (fun i result =>
    setBit (setBit result i (v.getLsbD (i * 2))) (i + xlenBytes * 4) (v.getLsbD (i * 2 + 1)))

/-- The loop of `RISCV_BREV8`, over the bytes. -/
def brev8 (v : Xlenbits) : Xlenbits :=
  forUp xlenBytes 0#_ (fun i result => setRange result (8 * i) (bits v (8 * i) 8).reverse)

/-- The loops of `RISCV_XPERM8` and `RISCV_XPERM4`, over the fields of `n` bits. -/
def xperm (n : ℕ) (rs1Val rs2Val : Xlenbits) : Xlenbits :=
  forUp (xlen / n) 0#_ (fun i result =>
    let index := (bits rs2Val (n * i) n).toNat
    setRange result (n * i) (if n * index < xlen then bits rs1Val (n * index) n else 0#n))

/-- `execute` of the clauses for bit manipulation for cryptography. -/
def ZbkbInst.execute : ZbkbInst → M Retired
  | .ZBKB_RTYPE rs2 rs1 rd op => do
      let rs1Val ← rX rs1
      let rs2Val ← rX rs2
      retireX rd (op.result rs1Val rs2Val)
  | .ZBKB_PACKW rs2 rs1 rd => do
      assert (decide (xlen = 64)) ""
      let rs1Val ← rX rs1
      let rs2Val ← rX rs2
      retireX rd ((bits rs2Val 0 16 ++ bits rs1Val 0 16).signExtend xlen)
  | .RISCV_ZIP rs1 rd => do
      assert (decide (xlen = 32)) ""
      retireX rd (zipBits (← rX rs1))
  | .RISCV_UNZIP rs1 rd => do
      assert (decide (xlen = 32)) ""
      retireX rd (unzipBits (← rX rs1))
  | .RISCV_BREV8 rs1 rd => do retireX rd (brev8 (← rX rs1))

/-- `execute` of the clauses for crossbar permutations. -/
def ZbkxInst.execute : ZbkxInst → M Retired
  | .RISCV_XPERM8 rs2 rs1 rd => do
      let rs1Val ← rX rs1
      let rs2Val ← rX rs2
      retireX rd (xperm 8 rs1Val rs2Val)
  | .RISCV_XPERM4 rs2 rs1 rd => do
      let rs1Val ← rX rs1
      let rs2Val ← rX rs2
      retireX rd (xperm 4 rs1Val rs2Val)

/-! ## What execution does -/

variable {R : State → State → Prop} [CoreRel R]

instance ZknInst.settles (i : ZknInst) : Exec.Settles R SyncTrap Failed i.execute := by
  cases i <;>
    (unfold ZknInst.execute
     first
       | infer_instance
       | (unfold unary32; infer_instance)
       | (unfold unary64; infer_instance)
       | (unfold binary64; infer_instance)
       | (unfold byteRound; infer_instance)
       | (unfold binaryX; infer_instance))

instance ZksInst.settles (i : ZksInst) : Exec.Settles R SyncTrap Failed i.execute := by
  cases i <;>
    (unfold ZksInst.execute
     first
       | (unfold unary32; infer_instance)
       | (unfold sm4Round; infer_instance))

instance ZbkbInst.settles (i : ZbkbInst) : Exec.Settles R SyncTrap Failed i.execute := by
  cases i <;> (unfold ZbkbInst.execute; infer_instance)

instance ZbkxInst.settles (i : ZbkxInst) : Exec.Settles R SyncTrap Failed i.execute := by
  cases i <;> (unfold ZbkxInst.execute; infer_instance)

end SailRiscv
