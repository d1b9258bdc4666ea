import CacheCluster.Domain.Mark

/-!
# Directions of writing

A name with letters that run from right to left must not be shown in a misleading order.  Each of
its labels begins with a letter, keeps to one direction, and ends in a letter or a number.

## Main definitions

* `Direction`, `direction` : the direction of a character.
* `runsBack` : whether a label has something that runs from right to left.
* `keepsDirection` : the rule for a label.
-/

namespace CacheCluster.Domain

/-- The direction of a character: letters, numbers and what stands around numbers, signs without a
direction, ignored ones, and marks, which go with the character before them. -/
inductive Direction
  | left
  | right
  | arabicLetter
  | number
  | arabicNumber
  | separator
  | terminator
  | commonSeparator
  | neutral
  | ignored
  | mark
  deriving DecidableEq

/-- The direction of an abbreviation. -/
def Direction.ofText (cs : List Char) : Direction :=
  match String.ofList cs with
  | "R" => .right
  | "AL" => .arabicLetter
  | "EN" => .number
  | "AN" => .arabicNumber
  | "ES" => .separator
  | "ET" => .terminator
  | "CS" => .commonSeparator
  | "ON" => .neutral
  | "BN" => .ignored
  | "NSM" => .mark
  | _ => .left

/-- The directions of characters, except of marks and of what runs from left to right. -/
def directionTable : Text.Table Direction := .ofText Direction.ofText "
21-22=ON 24=ET 26-2A=ON 2B=ES 2C=CS 2D=ES 2E=CS 30-39=EN 3B=ON 3D=ON 5F=ON 7E=ON A1=ON A2-A5=ET
A6-A7=ON A9=ON AB-AC=ON AE=ON B0-B1=ET B6-B7=ON BB=ON BF=ON D7=ON F7=ON 2B9-2BA=ON 2C2-2CF=ON
2D2-2D7=ON 2DE-2DF=ON 2E5-2ED=ON 2EF-2FF=ON 375=ON 3F6=ON 58A=ON 58D-58E=ON 58F=ET 5BE=R 5C0=R
5C3=R 5C6=R 5D0-5EA=R 5EF-5F4=R 606-607=ON 608=AL 609-60A=ET 60B=AL 60C=CS 60D=AL 60E-60F=ON
61B=AL 61D-64A=AL 660-669=AN 66A=ET 66B-66C=AN 66D-66F=AL 671-674=AL 679-6D5=AL 6DE=ON 6E5-6E6=AL
6E9=ON 6EE-6EF=AL 6F0-6F9=EN 6FA-70D=AL 710=AL 712-72F=AL 74D-7A5=AL 7B1=AL 7C0-7EA=R 7F4-7F5=R
7F6-7F9=ON 7FA=R 7FE-815=R 81A=R 824=R 828=R 830-83E=R 840-858=R 85E=R 860-86A=AL 870-88F=AL
8A0-8C9=AL 9F2-9F3=ET 9FB=ET AF1=ET BF3-BF8=ON BF9=ET BFA=ON C78-C7E=ON CBF=L CC6=L E3F=ET
F3A-F3D=ON 1390-1399=ON 1400=ON 169B-169C=ON 17DB=ET 17F0-17F9=ON 1800-180A=ON 1940=ON
1944-1945=ON 19DE-19FF=ON 200C-200D=BN 2010=ON 2012-2016=ON 2018-2023=ON 2027=ON 2030-2032=ET
2035=ON 2038-203B=ON 203D=ON 203F-2043=ON 2044=CS 2045-2046=ON 204A-2056=ON 2058-205E=ON
20A0-20A7=ET 20A9-20C1=ET 2104=ON 2108=ON 2114=ON 2117-2118=ON 211E-211F=ON 2123=ON 2125=ON
2127=ON 2129=ON 212E=ET 213A=ON 2141-2144=ON 214A-214D=ON 218A-218B=ON 2190-2211=ON 2212=ES
2213=ET 2214-222B=ON 222E=ON 2231-2328=ON 232B-2335=ON 237B-2394=ON 2396-2429=ON 2440-244A=ON
24EB-26AB=ON 26AD-27FF=ON 2900-2A0B=ON 2A0D-2A73=ON 2A77-2ADB=ON 2ADD-2B73=ON 2B76-2BFF=ON
2CE5-2CEA=ON 2CF9-2CFF=ON 2E00-2E5D=ON 2E80-2E99=ON 2E9B-2E9E=ON 2EA0-2EF2=ON 3001=ON
3003-3004=ON 3008-3020=ON 3030=ON 3037=ON 303D-303F=ON 30A0=ON 30FB=ON 31C0-31E5=ON 4DC0-4DFF=ON
A490-A4C6=ON A60D-A60F=ON A673=ON A67E-A67F=ON A700-A721=ON A788=ON A828-A82B=ON A838-A839=ET
A874-A877=ON AB6A-AB6B=ON FBB2-FBC2=AL FBC3-FBD2=ON FD3E-FD4F=ON FD90-FD91=ON FDC8-FDCF=ON
FDFD-FDFF=ON FE45-FE46=ON FE73=AL 10101=ON 10140-1018C=ON 10190-1019C=ON 101A0=ON 102E1-102FB=EN
10800-10805=R 10808=R 1080A-10835=R 10837-10838=R 1083C=R 1083F-10855=R 10857-1089E=R
108A7-108AF=R 108E0-108F2=R 108F4-108F5=R 108FB-1091B=R 1091F=ON 10920-10939=R 1093F-10959=R
10980-109B7=R 109BC-109CF=R 109D2-10A00=R 10A10-10A13=R 10A15-10A17=R 10A19-10A35=R 10A40-10A48=R
10A50-10A58=R 10A60-10A9F=R 10AC0-10AE4=R 10AEB-10AF6=R 10B00-10B35=R 10B39-10B3F=ON
10B40-10B55=R 10B58-10B72=R 10B78-10B91=R 10B99-10B9C=R 10BA9-10BAF=R 10C00-10C48=R 10CC0-10CF2=R
10CFA-10CFF=R 10D00-10D23=AL 10D30-10D39=AN 10D40-10D49=AN 10D4A-10D4F=R 10D6E=ON 10D6F-10D85=R
10D8E-10D8F=R 10E60-10E7E=AN 10E80-10EA9=R 10EAD=R 10EB0-10EB1=R 10EC2-10EC7=AL 10ED0-10ED8=ON
10F00-10F27=R 10F30-10F45=AL 10F51-10F59=AL 10F70-10F81=R 10F86-10F89=R 10FB0-10FCB=R
10FE0-10FF6=R 11052-11065=ON 11660-1166C=ON 1171E=NSM 11A07-11A08=L 11C3F=L 11FD5-11FDC=ON
11FDD-11FE0=ET 11FE1-11FF1=ON 16FE2=ON 1CC00-1CCD5=ON 1CCFA-1CCFC=ON 1CD00-1CEB3=ON
1CEBA-1CED0=ON 1CEE0-1CEF0=ON 1D1E9-1D1EA=ON 1D200-1D241=ON 1D245=ON 1D300-1D356=ON 1E2FF=ET
1E800-1E8C4=R 1E8C7-1E8CF=R 1E922-1E943=R 1E94B=R 1E950-1E959=R 1E95E-1E95F=R 1EC71-1ECB4=AL
1ED01-1ED3D=AL 1EEF0-1EEF1=ON 1F000-1F02B=ON 1F030-1F093=ON 1F0A0-1F0AE=ON 1F0B1-1F0BF=ON
1F0C1-1F0CF=ON 1F0D1-1F0F5=ON 1F10B-1F10F=ON 1F12F=ON 1F16D-1F16F=ON 1F1AD=ON 1F260-1F265=ON
1F300-1F6D8=ON 1F6DC-1F6EC=ON 1F6F0-1F6FC=ON 1F700-1F7D9=ON 1F7E0-1F7EB=ON 1F7F0=ON
1F800-1F80B=ON 1F810-1F847=ON 1F850-1F859=ON 1F860-1F887=ON 1F890-1F8AD=ON 1F8B0-1F8BB=ON
1F8C0-1F8C1=ON 1F8D0-1F8D8=ON 1F900-1FA57=ON 1FA60-1FA6D=ON 1FA70-1FA7C=ON 1FA80-1FA8A=ON
1FA8E-1FAC6=ON 1FAC8=ON 1FACD-1FADC=ON 1FADF-1FAEA=ON 1FAEF-1FAF8=ON 1FB00-1FB92=ON
1FB94-1FBEF=ON 1FBFA=ON"

/-- The direction of a character. -/
def direction (c : Char) : Direction :=
  match directionTable.value? c with
  | some d => d
  | none => if mark? c = some .nonspacing then .mark else .left

/-- Whether something in a label runs from right to left.  Nothing does before U+0590. -/
def runsBack (label : List Char) : Bool :=
  label.any fun c =>
    0x590 ≤ c.toNat && [Direction.right, .arabicLetter, .arabicNumber].contains (direction c)

/-- Whether directions keep to some, and end in one of others before the marks at the end. -/
def keepTo (inside atEnd : List Direction) (ds : List Direction) : Bool :=
  ds.all inside.contains &&
    match (ds.reverse.dropWhile (· = .mark)).head? with
    | some last => atEnd.contains last
    | none => false

/-- Whether a label keeps to the direction of its first letter. -/
def keepsDirection (label : List Char) : Bool :=
  let ds := label.map direction
  match ds.head? with
  | none => true
  | some .left =>
    keepTo [.left, .number, .separator, .commonSeparator, .terminator, .neutral, .ignored, .mark]
      [.left, .number] ds
  | some .right | some .arabicLetter =>
    keepTo [.right, .arabicLetter, .arabicNumber, .number, .separator, .commonSeparator,
      .terminator, .neutral, .ignored, .mark] [.right, .arabicLetter, .number, .arabicNumber] ds &&
      !(ds.contains .number && ds.contains .arabicNumber)
  | some _ => false

end CacheCluster.Domain
