import DepthRules.Charset.BigFive
import DepthRules.Charset.Cns
import DepthRules.Charset.Decoded
import DepthRules.Charset.Gbk
import DepthRules.Charset.Japanese

/-!
# Encodings for Chinese

For simplified characters GB 2312, its extension GBK and the extension of that to all characters
there are; for traditional ones Big Five with two extensions, and the extended Unix code.
-/

namespace DepthRules.Charset

/-- The column of a second byte of GBK. -/
def gbkColumn? (b : UInt8) : Option Nat :=
  (within? 0x40 0x7E b).or ((within? 0x80 0xFE b).map (· + 63))

/-- The character of two bytes in GBK. -/
def gbkPair (a b : UInt8) : Option Char := do
  gbkRows.character? a.toNat (← gbkColumn? b)

/-- GBK. -/
def gbk : Code := asciiOr gbkPair

/-- Whether GBK added the character in a row, from one, and a column to those of GB 2312. -/
def isAdded (row column : Nat) : Bool :=
  (row = 2 && column < 10) || (row = 6 && 63 ≤ column) || (row = 8 && 26 ≤ column && column < 32) ||
    (9 < row && row < 16) || 87 < row

/-- The character of GB 2312 in a row, from one, and a column. -/
def gb2312? (row column : Nat) : Option Char :=
  if row = 1 && column = 3 then some '・'
  else if row = 1 && column = 9 then some '―'
  else if isAdded row column then none
  else gbkRows.character? (0xA0 + row) (96 + column)

/-- The extended Unix code for Chinese, which is GB 2312. -/
def eucCn : Code := asciiOr fun a b => (highPlace? a b).bind fun (row, column) => gb2312? row column

/-- A character left to users in GBK. -/
def gbkUser? (a b : UInt8) : Option Char := do
  match within? 0xAA 0xAF a, within? 0xF8 0xFE a, within? 0xA1 0xA7 a with
  | some row, _, _ => return Char.ofNat (0xE000 + 94 * row + (← within? 0xA1 0xFE b))
  | none, some row, _ => return Char.ofNat (0xE234 + 94 * row + (← within? 0xA1 0xFE b))
  | none, none, some row =>
      let column ← gbkColumn? b
      if column < 96 then return Char.ofNat (0xE4C6 + 96 * row + column) else none
  | none, none, none => none

/-- GBK as on Windows. -/
def windows936 : Code := fun b rest =>
  if b = 0x80 then some ('€', 0)
  else asciiOr (fun a second => (gbkPair a second).or (gbkUser? a second)) b rest

/-- The character for private use in a row and a column where the full encoding has nothing else. -/
def gbPrivate? (row column : Nat) : Option Char :=
  (gbPrivateRuns.find? fun run =>
    run.row = row && run.column ≤ column && column < run.column + run.count).map fun run =>
      Char.ofNat (run.code + (column - run.column))

/-- The character of two bytes in the full encoding. -/
def gb18030Pair (a b : UInt8) : Option Char := do
  let column ← gbkColumn? b
  (gbkRows.character? a.toNat column).or <| (gbFurtherRows.character? a.toNat column).or <|
    (gbkUser? a b).or (gbPrivate? a.toNat column)

/-- The code points that two bytes can write. -/
def gb18030Pairs : List Nat :=
  (List.range 126).flatMap fun row => (List.range 191).filterMap fun column =>
    (gb18030Pair (UInt8.ofNat (0x81 + row)) (UInt8.ofNat (0x40 + column))).map Char.toNat

/-- For each code point up to U+FFFF, whether two bytes can write it. -/
def hasPair : Array Bool :=
  gb18030Pairs.foldl (fun marks n => marks.setIfInBounds n true) (Array.replicate 0x10000 false)

/-- The characters of four bytes up to U+FFFF: in order those that neither one byte nor two can
write. -/
def gb18030Rest : Array Char :=
  (((List.range 0x10000).drop 0x80).filter fun n =>
    n.isValidChar && !hasPair.getD n true).toArray.map Char.ofNat

/-- The character of four bytes, which are digits of a number. -/
def gb18030Four? (a b c d : UInt8) : Option Char := do
  let high := 10 * (← within? 0x81 0xFE a) + (← within? 0x30 0x39 b)
  let n := 1260 * high + 10 * (← within? 0x81 0xFE c) + (← within? 0x30 0x39 d)
  if n < gb18030Rest.size then gb18030Rest[n]?
  else if 189000 ≤ n && n < 189000 + 0x100000 then some (Char.ofNat (0x10000 + (n - 189000)))
  else none

/-- The full encoding of Chinese and all other characters. -/
def gb18030 : Code := fun b rest =>
  match ascii? b, rest with
  | some c, _ => some (c, 0)
  | none, second :: third :: fourth :: _ =>
      if 0x30 ≤ second && second ≤ 0x39 then (gb18030Four? b second third fourth).map (·, 3)
      else (gb18030Pair b second).map (·, 1)
  | none, second :: _ => (gb18030Pair b second).map (·, 1)
  | none, [] => none

/-- The column of a second byte of Big Five. -/
def bigFiveColumn? (b : UInt8) : Option Nat :=
  (within? 0x40 0x7E b).or ((within? 0xA1 0xFE b).map (· + 63))

/-- The character of two bytes in Big Five. -/
def bigFivePair (a b : UInt8) : Option Char := do
  bigFiveRows.character? a.toNat (← bigFiveColumn? b)

/-- Big Five. -/
def bigFive : Code := asciiOr bigFivePair

/-- The codes for which Windows has other characters than Big Five, or for which that has none. -/
def windowsBigFive : List (Nat × Char) :=
  [(0xA145, '‧'), (0xA14E, '﹑'), (0xA1C2, '¯'), (0xA1E3, '～'), (0xA1F2, '⊕'), (0xA1F3, '⊙'),
    (0xA241, '∕'), (0xA242, '﹨'), (0xA244, '￥'), (0xA246, '￠'), (0xA247, '￡'), (0xA3E1, '€')]

/-- The characters of Windows at the end of its last row. -/
def windowsBigFiveEnd : List Char := "碁銹裏墻恒粧嫺╔╦╗╠╬╣╚╩╝╒╤╕╞╪╡╘╧╛╓╥╖╟╫╢╙╨╜║═╭╮╰╯▓".toList

/-- A character left to users in Big Five. -/
def bigFiveUser? (a b : UInt8) : Option Char := do
  let column ← bigFiveColumn? b
  match within? 0xFA 0xFE a, within? 0x8E 0xA0 a, within? 0x81 0x8D a, within? 0xC6 0xC8 a with
  | some row, _, _, _ => return Char.ofNat (0xE000 + 157 * row + column)
  | none, some row, _, _ => return Char.ofNat (0xE311 + 157 * row + column)
  | none, none, some row, _ => return Char.ofNat (0xEEB8 + 157 * row + column)
  | none, none, none, some row =>
      if row = 0 && column < 63 then none
      else return Char.ofNat (0xF6B1 + 157 * row + column - 63)
  | none, none, none, none => none

/-- Big Five as on Windows. -/
def windows950 : Code := asciiOr fun a b =>
  (windowsBigFive.lookup (a.toNat * 256 + b.toNat)).or <|
    (if a = 0xF9 then (within? 0xD6 0xFE b).bind (windowsBigFiveEnd[·]?) else none).or <|
      (bigFiveUser? a b).or (bigFivePair a b)

/-- The codes of Hong Kong that stand for a letter and a mark. -/
def hongKongMarked : List (Nat × List Char) :=
  [(0x8862, ['Ê', '\u0304']), (0x8864, ['Ê', '\u030c']), (0x88A3, ['ê', '\u0304']),
    (0x88A5, ['ê', '\u030c'])]

/-- Whether a cell of Big Five belongs to Hong Kong alone. -/
def isHongKong (row column : Nat) : Bool :=
  row = 0xC7 || row = 0xC8 || (row = 0xC6 && 63 ≤ column)

/-- The character of a cell in Hong Kong. -/
def hongKong? (row column : Nat) : Option Char :=
  (hongKongRows.character? row column).or <|
    if isHongKong row column then none else bigFiveRows.character? row column

/-- Big Five as in Hong Kong. -/
def hongKong : Step Unit := fun _ b rest =>
  match ascii? b, rest with
  | some c, _ => some ((), [c], 0)
  | none, [] => none
  | none, second :: _ =>
      match hongKongMarked.lookup (b.toNat * 256 + second.toNat) with
      | some cs => some ((), cs, 1)
      | none => do
          let c ← hongKong? b.toNat (← bigFiveColumn? second)
          return ((), [c], 1)

/-- The character of a plane of CNS 11643, in a row from one and a column. -/
def cns? (plane row column : Nat) : Option Char :=
  match plane with
  | 1 => cnsFirst.character? row column
  | 2 => cnsSecond.character? row column
  | _ => none

/-- The extended Unix code for traditional characters. -/
def eucTw : Code := fun b rest =>
  match ascii? b, rest with
  | some c, _ => some (c, 0)
  | none, second :: rest =>
      if b = 0x8E then
        match rest with
        | third :: fourth :: _ => do
            let plane ← within? 0xA1 0xB0 second
            let (row, column) ← highPlace? third fourth
            return (← cns? (plane + 1) row column, 3)
        | _ => none
      else do
        let (row, column) ← highPlace? b second
        return (← cns? 1 row column, 1)
  | none, [] => none

end DepthRules.Charset
