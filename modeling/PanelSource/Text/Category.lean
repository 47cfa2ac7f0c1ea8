import PanelSource.Number.Integer

/- General categories of characters.

   Every code point has one category. The table below tells them in runs: the length of a run in
   decimal, left out when it is one, and then a letter for the category, `A` for `lu` and so on
   in the order of the constructors. -/
namespace PanelSource.Text

/-- The general categories of Unicode under their short names. -/
inductive Category where
  | lu | ll | lt | lm | lo | mn | mc | me | nd | nl | no | pc | pd | ps | pe | pi | pf | po
  | sm | sc | sk | so | zs | zl | zp | cc | cf | cs | co | cn
  deriving DecidableEq, Repr, Inhabited

namespace Category

def all : List Category :=
  [.lu, .ll, .lt, .lm, .lo, .mn, .mc, .me, .nd, .nl, .no, .pc, .pd, .ps, .pe, .pi, .pf, .po,
   .sm, .sc, .sk, .so, .zs, .zl, .zp, .cc, .cf, .cs, .co, .cn]

/-- The category that a letter of the table stands for. -/
def ofLetter (c : Char) : Category :=
  let n := c.toNat
  (all[if n < 0x61 then n - 0x41 else n - 0x61 + 26]?).getD .cn

end Category

/-- Reads runs; `n` is the length read so far. -/
def readRuns : Nat → List Char → List (Nat × Char)
  | _, [] => []
  | n, c :: rest =>
    match Number.digitValue c with
    | some d => readRuns (n * 10 + d) rest
    | none => (max n 1, c) :: readRuns 0 rest

def categoryRows : List String :=
  ["32ZW3RT3RNORSRM2R10I2R3S2R26ANROULU26BNSOS33ZWR4TVRUVEPSaVUVS2KUB2RUKEQ3KR23AS7A24BS8BABAB",
   "ABABABABABABABABABABABABABABABABABABABABABABABABABA2BABABABABABABABA2BABABABABABABABABABAB",
   "ABABABABABABABABABABABABAB2ABABA3B2ABAB2AB3A2B4AB2AB3A3B2AB2ABABAB2ABA2BAB2AB3ABAB2A2BEA3B",
   "4EACBACBACBABABABABABABABA2BABABABABABABABABA2BACBAB3ABABABABABABABABABABABABABABABABABABA",
   "BABABABABABABABABABABA7B2AB2A2BAB4ABABABABA69BE27B18D4U12D14U5D7UDUD17U112FABABDUAB2dD3BRA",
   "4d2UAR3AdAd2AB17Ad9A35BA2B3A3BABABABABABABABABABABABA5BABSAB2A2B51A48BABABABABABABABABABAB",
   "ABABABABABABABV5F2HABABABABABABABABABABABABABABABABABABABABABABABABABABAB2ABABABABABABA2BA",
   "BABABABABABABABABABABABABABABABABABABABABABABABABABABABABABABABABABABABABABABABABABABABABA",
   "BABABd38A2dD6R41BRM2d2VTd45FMFR2FR2FRF8d27E4d4E2R11d6a3S2RT2R2V11FRa3R32ED10E21F10I4R2EF",
   "99ERE7FaV6F2D2FV4F2E10I3E2VE14RdaEF30E27F2d89E11FE14d10I33E9F2DV3RD2dF2T22E4FD9FD3FD5F2d",
   "15Rd25E3F2dRd11E5d24EU6Ed2a6d8F41ED24Fa32FG54EFGFE3G8F4GF2GE7F10E2F2R10IRD15EF2Gd8E2d2E2d",
   "22Ed7EdE3d4E2dFE3G4F2d2G2d2GFE8dG4d2Ed3E2F2d10I2E2T6KVTERF2d2FGd6E4d2E2d22Ed7Ed2Ed2Ed2E2dF",
   "d3G2F4d2F2d3F3dF7d4EdE7d10I2F3EFR10d2FGd9Ed3Ed22Ed7Ed2Ed5E2dFE3G5Fd2FGd2GF2dE15d2E2F2d10IR",
   "T7dE6FdF2Gd8E2d2E2d22Ed7Ed2Ed5E2dFEGFG4F2d2G2d2GF7d2FG4d2Ed3E2F2d10IVE6K10dFEd6E3d3Ed4E3d",
   "2EdEd2E3d2E3d3E3d12E4d2GF2G3d3Gd3GF2dE6dG14d10I3K6VTV5dF3GF8Ed3Ed23Ed16E2dFE3F4Gd3Fd4F7d2F",
   "d3E2dE2d2E2F2d10I7dR7KVEF2GR8Ed3Ed23Ed10Ed5E2dFEGF5GdF2Gd2G2F7d2G6d2Ed2E2F2d10Id2EG12d2F2G",
   "9Ed3Ed41E2FE3G4Fd3Gd3GFEV4d3EG7K3E2F2d10I9KV6EdF2Gd18E3d24Ed9EdE2d7E3dF4d3G3FdFd8G6d10I2d",
   "2GR12d48EF2E7F4dT6ED8FR10I2R37d2EdEd5Ed24EdEd10EF2E9FE2d5EdDd7Fd10I2d4E32dE3V15RVR3V2F6V",
   "10I10KVFVFVFNONO2G8Ed36E4d14FG5FR2F5E11Fd36Fd8VF6Vd2V5R4V2R37d43E2G4FG6FG2F2G2FE10I6R6E2G",
   "2F4E3FE3G2E7G3E4F13EF2G2F6GFEG10I3GF2V38AdA5dA2d43BRD3B329Ed4E2d7EdEd4E2d41Ed4E2d33Ed4E2d",
   "7EdEd4E2d15Ed57Ed4E2d67E2d3F9R20K3d16E10V6d86A2d6B2dM620EVR17EW26ENO3d75E3R3J8E7d18E3FG9d",
   "19E2FG2R9d18E2F12d13Ed3Ed2F12d52E2FG7F8GF2G11F3RD3RTEF2d10I6d10K6d6RM4R3FaF10I6d35ED53E7d",
   "5E2F34EFE5d70E10d31Ed3F4G2F3G4d2GF6G3F4dV3d2R10I30E2d5E11d44E4d26E6d10IK3d34V23E2F2GF2d2R",
   "53EGFG7FdFGF2G8F6G10F2dF10I6d10I6d7RD6R2d14FH16F49d4FG47EFG5FGF5GF2G8E3d10I7R10V9F9V2Rd2FG",
   "30EG4F2G2FG3F2E10I44EFG2F3GFG3F2G8d4R36E8G8F2G2F3d5R10I3d3E10I30E6D2R9B7d43A2d3A8R8d3FR13F",
   "G7F4EF6EF2EG2FE5d44B63D13BD34B37D64FABABABABABABABABABABABABABABABABABABABABABABABABABABAB",
   "ABABABABABABABABABABABABABABABABABABABABABABABABABABABABABABABABABABABABABABABABABABABABAB",
   "ABABA9BABABABABABABABABABABABABABABABABABABABABABABABABABABABABABABABABABABABABABABABABABA",
   "BABABABABABABA9B8A6B2d6A2d8B8A8B8A6B2d6A2d8BdAdAdAdA8B8A14B2d8B8C8B8C8B8C5Bd2B4ACUB3U3Bd2B",
   "4AC3U4B2d2B4Ad3U8B5A3U2d3Bd2B4AC2Ud11W5a6M2RPQN2PQNP8RXY5aW9RPQ4R2L3RSNO11RSRL10RW5ad10aKD",
   "2d6K3SNOD10K3SNOd13D3d33T15d13F4HF3H12F15d2VA4VA2VB3A2B3ABVA2VS5A6VAVAVAV4AVB4AB4EB2V2B2A",
   "5SA4BVS2VBV16K35JAB4JK2V4d5S5V2S4VS2VS2VS7VS31V2S2VSVS31V268S8VNONO20V2S7VNO81VS30V25S40V",
   "6S69V25d11V21d60K78V22K183VS9VS54V8S111VS248VNONONONONONONO30K44V5SNO31SNONONONONO16S256V",
   "131SNONONONONONONONONONONO63SNONO32SNO258S48V21S2V6S39V2d32Vd105V48A48BAB3A2BABABAB4ABA2BA",
   "6B2D3ABABABABABABABABABABABABABABABABABABABABABABABABABABABABABABABABABABABABABABABABABABA",
   "BABABABABABABA2B6VABAB3FAB5d4RK2R38BdB5dB2d56E7dDR14dF23E9d7Ed7Ed7Ed7Ed7Ed7Ed7Ed7Ed32F2RPQ",
   "PQ3RPQRPQ9RM2RMRPQ2RPQNONONONO5RD10R2M4RMRN13R2V3RNONONONOM34d26Vd89V12d214V26d12V4dW3RVDE",
   "JNONONONONO2VNONONONOMN2OV9J4F2GM5D2V3JDER2Vd86E2d2F2U2DEM90ER3DE5d43Ed94Ed2V4K10V32E36V",
   "12d16E31Vd10K30V8KV15K32V10K39V15K320V6592E64V21013ED1143E3d55V9d40E6D2R268ED3R16E10I2E20d",
   "ABABABABABABABABABABABABABABABABABABABABABABABEF3HR10FRDABABABABABABABABABABABABABAB2D2F",
   "70E10J2F6R8d23U9D2UABABABABABABA3BABABABABABABABABABABABABABABABABABABABABABABABABABABABAB",
   "ABABABD8BABAB2ABABABABABD2UABABEABA3BABABABABABABABABABAB5AB5ABABABABABABABAB4ABAB5dABdBdB",
   "ABAB24d3DABE2DB7EF3EF4EF23E2G2FG4VF3d6K2VTV6d52E4R8d2G50E16G2F8d2R10I6d18F6E3RER2EF10I28E",
   "8F2R23E11F2G11dR29E3d3FG47EF2G4F2G2F3G13RdD10I4d2R5EFD9E10I5Ed41E6F2G2F2G2F9d3EF8EFG2d10I",
   "2d4R16ED6E3VEGFG50EFE3F2E2F5E2FEFE24d2ED2R11EG2F2G2RE2DGF10d6E2d6E2d6E9d7Ed7Ed43BU4D9BD2U",
   "4d80B35E2GF2GF2GRGF2d10I6d11172E12d23E4d49E4d2048b6400c366E2d106E38d7B12d5B5dEF10ES13Ed5Ed",
   "Ed2Ed2Ed108E17U16d363EON16V64E2d54E7dV32d12ET3V16F7RNOR6d16FR2M2LNONONONONONONONO2RNO4R3L",
   "3Rd4RMNONONO3RSM3SdRT2R4d5Ed135E2dad3RT3RNORSRM2R10I2R3S2R26ANROULU26BNSOSNORNO2R10ED45E2D",
   "31E3d6E2d6E2d6E2d3E3d2TSUV2TdV4S2V10d3a2V2d12Ed26Ed19Ed2Ed15E2d14E34d123E5d3R4d45K3d9V53J",
   "4K17V2K3Vd13V3dV47d45VF130d29E3d49E15dF27K4d32E4K9d20EJ8EJ5d38E5F5d30EdR36E4d8ER5J42d40A",
   "40B78E2d10I6d36A4d36B4d40E8d52E11dR11Ad15Ad7Ad2Ad11Bd15Bd7Bd2B67d311E9d22E10d8E24d6Dd42Dd",
   "9D69d6E2dEd44Ed2E3dE2d23EdR8K23E2V7K31E8d9K48d19Ed2E5d5K22E6K3dR26E5dR64d56E4d2K2E16K2d46K",
   "E3Fd2F5d4F4Ed3Ed29E2d3F4dF9K7d9R7d29E2KR29E3K32d8EV28E2F4d5K7R9d54E3d7R22E2d8K19E5d8K18E7d",
   "4R12d7K80d73E55d51A13d51B7d6K36E4F8d10I294d31Kd42Ed2FM2d2E75d3F29E10KE8d22E11F4K5R22d18E4F",
   "4R38d21E7K20d23E9dGFG53E15F7R4d20K10IF2E2FE9d3FG45E3G4F2G2F2Ra4RF10da2d25E7d10I6d3F36E5FG",
   "8Fd10I4RE2GE8d35EF2RE9d2FG48E3G9F2G4E4R4FRGF10IERE3Rd20K11d18Ed25E3G3F2GFG2F6RF2EF62d7EdEd",
   "4Ed15Ed10ER6d47EF3G8F5d10I6d2F2Gd8E2d2E2d22Ed7Ed2Ed5Ed2FE2GF4G2d2G2d3G2dE6dG5d5E2G2d7F3d5F",
   "139d53E3G8F2G3FGF4E5R10I2RdRF3E30d48E3G6FGF4G2FG2F2ERE8d10I166d47E3G4F2d4G2FG2F23R4E2F34d",
   "48E3G8F2GFG2F3RE11d10I6d13R19d43EFGF2G6FGFER6d10I54d27E2d3F2G4FG5F4d10I2K3RV7E185d44E3G9FG",
   "2FR100d32A32B10I9K12d8E2dE2d8Ed2Ed24E6Gd2G2d2FGFEGEGF3R9d10I70d8E2d39E3G4F2d2F4GFEREG27dE",
   "10F40E6FGE4F8RF8dE6F2G3F46E13FG2F3RE5R13d73E7d10R246d9Ed37EG7Fd6FGFE5R10d10I19K3d2R30E2d",
   "22FdG7FG2FG2F73d7Ed2Ed38E6F3dFd2Fd7FEF8d10I6d6Ed2Ed32E5Gd2Fd2GFGFE7d10I310d19E2F2G2R7d2FEG",
   "13Ed34E2G5F3d2GFGF13R10I86dE15d21K8V4T17V13dR922E102d111Jd5R11d196E2636d97E2R13d1072E16aF",
   "6E15F4010d583E8633d569E7d31Ed10I4d2R79Ed10I6d30E2d5FR10d48E7F5R4V4DRV10d10Id7Kd21E5d19E",
   "688d32A32B23K4R101d75E4dFE55G7d4F13D64d2DRDF11d2G14d6136E8d1238E42d9E8935d4Dd7Dd2Dd291E15d",
   "E29d3E2dE14d4E8d396E2308d107E5d13E3d9E7d10E2dV2FR4a4700d46F2d23F9d116V60d246V10d39V2d60V2G",
   "3F3V6G8a8F2V7F30V4F61V21d66V3FV122d20K12d20K12d87V9d25K135d26A26B26A7Bd18B26A26BAd2A2dA2d",
   "2A2d4Ad8A4BdBd7Bd11B26A26B2Ad4A2d8Ad7Ad26B2Ad4Ad5AdA3d7Ad26B26A26B26A26B26A26B26A26B26A26B",
   "26A28B2d25AS25BS6B25AS25BS6B25AS25BS6B25AS25BS6B25AS25BS6BAB2d50I512V55F4V50F8VF14VF2V5R",
   "15d5Fd15F1104d10BE20B6d6B213d7Fd17F2d7Fd2Fd5F5d62D33dF112d45E3d7F7D2d10I4dEV320d30EF17d44E",
   "4F10I5dT464d27ED4F10I742d7Ed4Ed2Ed15Ed197E2d9K7F41d34A34B7FD4d10I4d2R785d59KV3KT4K76d45KV",
   "15K194d4Ed27Ed2EdE2dEd10Ed4EdEdE6dE4dEdEdEd3Ed2EdE2dEdEdEdEdEd2EdE2d4Ed7Ed4Ed4EdEd10Ed17E",
   "5d3Ed5Ed17E52d2S270d44V4d100V12d15V2d15Vd15Vd37V10d13K161V56d29V13d44V4d9V7d2V14d6V154d",
   "251V5U728V4d17V3d13V3d119V4d95V6d12V4dV15d12V4d56V8d10V6d40V8d30V2d2V78d340V12d14V2d13V3d",
   "9V7d46Vd7V8d14V4d9V7d9V7d147Vd55V37d10I1030d42720E32d4154E6d222E2d5762E14d7473E3103d542E",
   "1506d4939E5d4192E711761da30d96a128d240F65040d65534c2d65534c2d"]

def categoryRuns : List (Nat × Category) :=
  categoryRows.flatMap fun row => (readRuns 0 row.toList).map fun r => (r.1, .ofLetter r.2)

/-- What stands at a position of a list of runs. -/
def runAt {α : Type} (outside : α) : List (Nat × α) → Nat → α
  | [], _ => outside
  | (n, a) :: rest, i => if i < n then a else runAt outside rest (i - n)

def categoryOf (code : Nat) : Category := runAt .cn categoryRuns code

end PanelSource.Text
