import Reindex.Text.Emoji

/-!
# Columns on a terminal

How many columns a text takes where every character has a fixed width: wide East Asian characters
and emoji take two, characters that join the one before them none, most others one. Some characters
share their columns: an emoji with what a joiner or a skin tone adds to it, letters that a script
writes as one sign, and a character with the variation selector behind it.

So the width of a character depends on what stands to the right of it, and a text is measured from
its end: `step` gives the columns that a character adds and what it is to the character before it.
-/

namespace Reindex.Text

/-! ## Single characters -/

/-- Characters of two columns: the East Asian widths Wide and Fullwidth. -/
def wideRanges : List (Nat × Nat) :=
  [
    (0x1100, 0x115F), (0x231A, 0x231B), (0x2329, 0x232A), (0x23E9, 0x23EC), (0x23F0, 0x23F0),
    (0x23F3, 0x23F3), (0x25FD, 0x25FE), (0x2614, 0x2615), (0x2630, 0x2637), (0x2648, 0x2653),
    (0x267F, 0x267F), (0x268A, 0x268F), (0x2693, 0x2693), (0x26A1, 0x26A1), (0x26AA, 0x26AB),
    (0x26BD, 0x26BE), (0x26C4, 0x26C5), (0x26CE, 0x26CE), (0x26D4, 0x26D4), (0x26EA, 0x26EA),
    (0x26F2, 0x26F3), (0x26F5, 0x26F5), (0x26FA, 0x26FA), (0x26FD, 0x26FD), (0x2705, 0x2705),
    (0x270A, 0x270B), (0x2728, 0x2728), (0x274C, 0x274C), (0x274E, 0x274E), (0x2753, 0x2755),
    (0x2757, 0x2757), (0x2795, 0x2797), (0x27B0, 0x27B0), (0x27BF, 0x27BF), (0x2B1B, 0x2B1C),
    (0x2B50, 0x2B50), (0x2B55, 0x2B55), (0x2E80, 0x2E99), (0x2E9B, 0x2EF3), (0x2F00, 0x2FD5),
    (0x2FF0, 0x303E), (0x3041, 0x3096), (0x3099, 0x30FF), (0x3105, 0x312F), (0x3131, 0x318E),
    (0x3190, 0x31E5), (0x31EF, 0x321E), (0x3220, 0x3247), (0x3250, 0xA48C), (0xA490, 0xA4C6),
    (0xA960, 0xA97C), (0xAC00, 0xD7A3), (0xF900, 0xFAFF), (0xFE10, 0xFE19), (0xFE30, 0xFE52),
    (0xFE54, 0xFE66), (0xFE68, 0xFE6B), (0xFF01, 0xFF60), (0xFFE0, 0xFFE6), (0x16FE0, 0x16FE4),
    (0x16FF0, 0x16FF6), (0x17000, 0x18CD5), (0x18CFF, 0x18D1E), (0x18D80, 0x18DF2),
    (0x1AFF0, 0x1AFF3), (0x1AFF5, 0x1AFFB), (0x1AFFD, 0x1AFFE), (0x1B000, 0x1B122),
    (0x1B132, 0x1B132), (0x1B150, 0x1B152), (0x1B155, 0x1B155), (0x1B164, 0x1B167),
    (0x1B170, 0x1B2FB), (0x1D300, 0x1D356), (0x1D360, 0x1D376), (0x1F004, 0x1F004),
    (0x1F0CF, 0x1F0CF), (0x1F18E, 0x1F18E), (0x1F191, 0x1F19A), (0x1F1E6, 0x1F202),
    (0x1F210, 0x1F23B), (0x1F240, 0x1F248), (0x1F250, 0x1F251), (0x1F260, 0x1F265),
    (0x1F300, 0x1F320), (0x1F32D, 0x1F335), (0x1F337, 0x1F37C), (0x1F37E, 0x1F393),
    (0x1F3A0, 0x1F3CA), (0x1F3CF, 0x1F3D3), (0x1F3E0, 0x1F3F0), (0x1F3F4, 0x1F3F4),
    (0x1F3F8, 0x1F43E), (0x1F440, 0x1F440), (0x1F442, 0x1F4FC), (0x1F4FF, 0x1F53D),
    (0x1F54B, 0x1F54E), (0x1F550, 0x1F567), (0x1F57A, 0x1F57A), (0x1F595, 0x1F596),
    (0x1F5A4, 0x1F5A4), (0x1F5FB, 0x1F64F), (0x1F680, 0x1F6C5), (0x1F6CC, 0x1F6CC),
    (0x1F6D0, 0x1F6D2), (0x1F6D5, 0x1F6D8), (0x1F6DC, 0x1F6DF), (0x1F6EB, 0x1F6EC),
    (0x1F6F4, 0x1F6FC), (0x1F7E0, 0x1F7EB), (0x1F7F0, 0x1F7F0), (0x1F90C, 0x1F93A),
    (0x1F93C, 0x1F945), (0x1F947, 0x1F9FF), (0x1FA70, 0x1FA7C), (0x1FA80, 0x1FA8A),
    (0x1FA8E, 0x1FAC6), (0x1FAC8, 0x1FAC8), (0x1FACD, 0x1FADC), (0x1FADF, 0x1FAEA),
    (0x1FAEF, 0x1FAF8), (0x20000, 0x2FFFD), (0x30000, 0x3FFFD)]

/-- Characters without a column of their own besides the extenders: those that a display leaves out,
signs that are written in front of a cluster, and Hangul vowels and final consonants. -/
def joiningRanges : List (Nat × Nat) :=
  [
    (0xAD, 0xAD), (0x605, 0x605), (0x61C, 0x61C), (0x70F, 0x70F), (0x890, 0x891), (0x8E2, 0x8E2),
    (0xD4E, 0xD4E), (0x1160, 0x11FF), (0x180E, 0x180E), (0x200B, 0x200B), (0x200D, 0x200F),
    (0x202A, 0x202E), (0x2060, 0x206F), (0x3164, 0x3164), (0xA8FA, 0xA8FA), (0xD7B0, 0xD7C6),
    (0xD7CB, 0xD7FB), (0xFEFF, 0xFEFF), (0xFFA0, 0xFFA0), (0xFFF0, 0xFFF8), (0x111C2, 0x111C3),
    (0x113D1, 0x113D1), (0x1193F, 0x1193F), (0x11941, 0x11941), (0x11A84, 0x11A89),
    (0x11D46, 0x11D46), (0x11F02, 0x11F02), (0x1BCA0, 0x1BCA3), (0x1D173, 0x1D17A),
    (0xE0000, 0xE001F),
    (0xE0080, 0xE00FF), (0xE01F0, 0xE0FFF)]

/-- Characters without a column that end the joining of Arabic letters. -/
def breakingRanges : List (Nat × Nat) :=
  [
    (0x605, 0x605), (0x890, 0x891), (0x8E2, 0x8E2), (0x9BE, 0x9BE), (0x9D7, 0x9D7), (0xB3E, 0xB3E),
    (0xB57, 0xB57), (0xBBE, 0xBBE), (0xBD7, 0xBD7), (0xCC0, 0xCC0), (0xCC2, 0xCC2), (0xCC7, 0xCC8),
    (0xCCA, 0xCCB), (0xCD5, 0xCD6), (0xD3E, 0xD3E), (0xD4E, 0xD4E), (0xD57, 0xD57), (0xDCF, 0xDCF),
    (0xDDF, 0xDDF), (0x1160, 0x11FF), (0x1715, 0x1715), (0x1734, 0x1734), (0x180E, 0x180E),
    (0x1B35, 0x1B35), (0x1B3B, 0x1B3B), (0x1B3D, 0x1B3D), (0x1B43, 0x1B44), (0x1BAA, 0x1BAA),
    (0x1BF2, 0x1BF3), (0x200C, 0x200D), (0x2065, 0x2069), (0x302E, 0x302F), (0x3164, 0x3164),
    (0xA8FA, 0xA8FA), (0xA953, 0xA953), (0xA9C0, 0xA9C0), (0xD7B0, 0xD7C6), (0xD7CB, 0xD7FB),
    (0xFFA0, 0xFFA0), (0xFFF0, 0xFFF8), (0x111C0, 0x111C0), (0x111C2, 0x111C3), (0x11235, 0x11235),
    (0x1133E, 0x1133E), (0x1134D, 0x1134D), (0x11357, 0x11357), (0x113B8, 0x113B8),
    (0x113C2, 0x113C2), (0x113C5, 0x113C5), (0x113C7, 0x113C9), (0x113CF, 0x113CF),
    (0x113D1, 0x113D1), (0x114B0, 0x114B0), (0x114BD, 0x114BD), (0x115AF, 0x115AF),
    (0x116B6, 0x116B6), (0x11930, 0x11930), (0x1193D, 0x1193D), (0x1193F, 0x1193F),
    (0x11941, 0x11941), (0x11A84, 0x11A89), (0x11D46, 0x11D46), (0x11F02, 0x11F02),
    (0x11F41, 0x11F41), (0x16FF0, 0x16FF1), (0x1D165, 0x1D166),
    (0x1D16D, 0x1D172), (0xE0000, 0xE0000), (0xE0002, 0xE001F), (0xE0080, 0xE00FF),
      (0xE01F0, 0xE0FFF)]

/-- Columns of one character that stands alone. -/
def charWidth (c : Char) : Nat :=
  if c.toNat < 0xA1 then 1
  else if c = '\u115F' ∨ c = '\u17A4' then 2
  else if c = '\u17D8' then 3
  else if c = '\u2D7F' ∨ c = '\uFF9E' ∨ c = '\uFF9F' then 1
  else if isExtender c || inRanges joiningRanges c then 0
  else if inRanges wideRanges c then 2
  else 1

/-- Marks between Arabic letters that leave them joined. -/
def isArabicMark (c : Char) : Bool := charWidth c == 0 && !inRanges breakingRanges c

/-- Marks that a display leaves out, which stand between letters without parting them. -/
def isUnseenMark (c : Char) : Bool :=
  inRanges [(0x34F, 0x34F), (0x17B4, 0x17B5), (0x180B, 0x180D), (0x180F, 0x180F), (0xFE00, 0xFE0F),
    (0xE0100, 0xE01EF)] c

def isAlef (c : Char) : Bool :=
  inRanges [(0x622, 0x623), (0x625, 0x625), (0x627, 0x627), (0x671, 0x673), (0x675, 0x675),
    (0x773, 0x774), (0x870, 0x882)] c

def isLam (c : Char) : Bool :=
  inRanges [(0x644, 0x644), (0x6B5, 0x6B8), (0x76A, 0x76A), (0x8A6, 0x8A6), (0x8C7, 0x8C7)] c

/-- Khmer letters that are written below the one before them when the sign Coeng stands between. -/
def isCoengLetter (c : Char) : Bool :=
  inRanges [(0x1780, 0x1782), (0x1784, 0x1787), (0x1789, 0x178C), (0x178E, 0x1793),
    (0x1795, 0x1798), (0x179B, 0x179D), (0x17A0, 0x17A0), (0x17A2, 0x17A2), (0x17A7, 0x17A7),
      (0x17AB, 0x17AC), (0x17AF, 0x17AF)] c

def isTifinagh (c : Char) : Bool := inRanges [(0x2D31, 0x2D65), (0x2D6F, 0x2D6F)] c

def isTagLetter (c : Char) : Bool := 0xE0061 ≤ c.toNat && c.toNat ≤ 0xE007A
def isTagDigit (c : Char) : Bool := 0xE0030 ≤ c.toNat && c.toNat ≤ 0xE0039

/-! ## What stands to the right -/

/-- What a character is to the one before it. Of a letter `joined` says that a joiner is in front of
it. -/
inductive Follower where
  | plain
  | lineFeed
  | skinTone
  /-- One letter of a flag. -/
  | flagLetter
  /-- Two or more letters of flags. -/
  | flagLetters
  | emoji
  /-- An emoji with a joiner in front. -/
  | joinedEmoji
  | joinedKeycap
  /-- An odd number of letters of flags before a joined emoji, none of which has a pair yet. -/
  | joinedFlagLetter
  | joinedFlags
  | joinedFlagsAndLetter
  /-- The end of the tags of a flag before a joined emoji, behind so many digits or letters. -/
  | tagEnd
  | tagDigits (count : Nat)
  | tagLetters (count : Nat)
  /-- Vowel signs of Kirat Rai. -/
  | vowelE
  | vowelAi
  | alef
  | lamed (joined : Bool)
  /-- Letters of Buginese: the consonant, and the joined consonant with its vowel sign. -/
  | ya (joined : Bool)
  | yaWithVowel
  | tifinagh (joined : Bool)
  /-- A Tifinagh consonant with the joining sign in front. -/
  | tifinaghJoiner
  /-- Tone letters of Lisu. -/
  | tone
  /-- A letter of Old Turkic. -/
  | orkhonI (joined : Bool)
  | coengLetter
deriving DecidableEq, Repr

/-- A letter that may share its column with one before it. -/
def Follower.isLetter : Follower → Bool
  | .alef | .lamed _ | .ya _ | .yaWithVowel | .tifinagh _ | .tifinaghJoiner | .tone | .orkhonI
      _ | .coengLetter => true
  | _ => false

/-- A letter before which joiners and unseen marks are passed over. -/
def Follower.isOpen (f : Follower) : Bool := f.isLetter && f != .alef

/-- A letter with a joiner in front. -/
def Follower.join : Follower → Follower
  | .lamed _ => .lamed true
  | .ya _ => .ya true
  | .tifinagh _ => .tifinagh true
  | .orkhonI _ => .orkhonI true
  | f => f

/-- A follower, and the variation selectors in front of it. -/
structure Right where
  follower : Follower := .plain
  /-- The selector of the emoji form. -/
  emojiForm : Bool := false
  /-- The selector of the text form. -/
  textForm : Bool := false
  /-- The selector of the wide form of a quotation mark. -/
  wideForm : Bool := false
deriving DecidableEq, Repr

/-- With the selector of the emoji form in front. Only letters and joined emoji stay what they
are. -/
def Right.addEmojiForm (r : Right) : Right :=
  if r.follower.isLetter || r.follower == .joinedEmoji || r.follower == .joinedKeycap then
    { r with emojiForm := true }
  else { emojiForm := true }

/-- Without the selector of the emoji form. Only letters stay what they are. -/
def Right.dropEmojiForm (r : Right) : Right :=
  if !r.emojiForm then r else if r.follower.isLetter then { r with emojiForm := false } else {}

def Right.addTextForm (r : Right) : Right :=
  if r.follower.isLetter then { r with textForm := true } else { textForm := true }

def Right.addWideForm (r : Right) : Right :=
  if r.follower.isLetter then { r with wideForm := true } else { wideForm := true }

/-! ## Columns -/

/-- The columns of a character in front of nothing that changes them, and what it is as a
follower. -/
def alone (c : Char) : Int × Follower :=
  if c.toNat < 0xA1 then (1, if c = '\n' then .lineFeed else .plain)
  else if isAlef c then (1, .alef)
  else if c = '\u05DC' then (1, .lamed false)
  else if isCoengLetter c then (1, .coengLetter)
  else if c = '\u1A10' then (1, .ya false)
  else if isTifinagh c then (1, .tifinagh false)
  else if c = '\uA4FC' ∨ c = '\uA4FD' then (1, .tone)
  else if c.toNat = 0x10C03 then (1, .orkhonI false)
  else if c.toNat = 0x16D67 then (1, .vowelE)
  else if c.toNat = 0x16D68 then (1, .vowelAi)
  else if isFlagLetter c then (1, .flagLetter)
  else if isSkinTone c then (2, .skinTone)
  else if isEmoji c then (2, .emoji)
  else (charWidth c, .plain)

/-- The columns that a character adds where it joins its follower, and what both are together. -/
def combined (f : Follower) (c : Char) : Option (Int × Follower) :=
  let joiner := c = '\u200D'
  match f with
  | .lineFeed => if c = '\r' then some (0, .plain) else none
  | .alef => if isLam c then some (0, .plain) else if isArabicMark c then some (0, .alef) else none
  | .lamed true => if c = '\u05D0' then some (0, .plain) else none
  | .coengLetter => if c = '\u17D2' then some (-1, .plain) else none
  | .ya true => if c = '\u1A17' then some (0, .yaWithVowel) else none
  | .yaWithVowel => if c = '\u1A15' then some (0, .plain) else none
  | .tifinagh joined =>
    if c = '\u2D7F' then some (1, .tifinaghJoiner) else if joined && isTifinagh c then
      some (0, .plain) else none
  | .tifinaghJoiner => if isTifinagh c then some (-1, .plain) else none
  | .tone => if '\uA4F8' ≤ c ∧ c ≤ '\uA4FB' then some (0, .plain) else none
  | .orkhonI true => if c.toNat = 0x10C32 then some (0, .plain) else none
  | .skinTone => if takesSkinTone c then some (0, .emoji) else if joiner then some (0, .joinedEmoji)
    else none
  | .flagLetter => if isFlagLetter c then some (1, .flagLetters) else none
  | .flagLetters =>
    if isFlagLetter c then some (1, .flagLetters) else if joiner then some (0, .joinedEmoji)
      else none
  | .emoji => if joiner then some (0, .joinedEmoji) else none
  | .joinedEmoji =>
    if c = '\u20E3' then some (0, .joinedKeycap)
    else if isFlagLetter c then some (1, .joinedFlagLetter)
    else if isSkinTone c then some (0, .skinTone)
    else if c.toNat = 0xE007F then some (0, .tagEnd)
    else if (alone c).2 = .emoji then some (0, .emoji)
    else none
  | .joinedFlagLetter | .joinedFlagsAndLetter => if isFlagLetter c then some (-1, .joinedFlags)
    else none
  | .joinedFlags =>
    if isFlagLetter c then some (3, .joinedFlagsAndLetter) else if joiner then
      some (0, .joinedEmoji) else none
  | .tagEnd =>
    if isTagLetter c then some (0, .tagLetters 1) else if isTagDigit c then some (0, .tagDigits 1)
      else none
  | .tagLetters n =>
    if isTagLetter c ∧ n < 6 then some (0, .tagLetters (n + 1))
    else if isTagDigit c ∧ n < 5 then some (0, .tagDigits 1)
    else if n ≥ 3 ∧ c.toNat = 0x1F3F4 then some (0, .emoji)
    else none
  | .tagDigits n =>
    if isTagDigit c ∧ n < 3 then some (0, .tagDigits (n + 1))
    else if n = 3 ∧ c.toNat = 0x1F3F4 then some (0, .emoji)
    else none
  | .vowelE =>
    if c.toNat = 0x16D63 ∨ c.toNat = 0x16D69 then some (0, .plain)
    else if c.toNat = 0x16D67 then some (0, .vowelAi)
    else if c.toNat = 0x16D68 then some (1, .vowelE)
    else none
  | .vowelAi => if c.toNat = 0x16D63 then some (0, .plain) else none
  | _ => none

/-- Quotation marks that have a wide form. -/
def isQuotationMark (c : Char) : Bool :=
  c = '\u2018' || c = '\u2019' || c = '\u201C' || c = '\u201D'

/-- The columns that a character adds to what stands to the right of it, and what it becomes with
that. -/
def step (c : Char) (right : Right) : Int × Right :=
  if right.emojiForm && isEmojiBase c then
    (if right.follower = .joinedEmoji ∨ right.follower = .joinedKeycap then 0 else
      2, { follower := .emoji })
  else
    let right := right.dropEmojiForm
    if c = '\uFE0F' then (0, right.addEmojiForm)
    else if c = '\uFE0E' then (0, right.addTextForm)
    else if right.textForm && hasTextForm c then (1, {})
    else
      let right := { right with textForm := false }
      if c = '\uFE01' then (0, right.addWideForm)
      else if right.wideForm && isQuotationMark c then (2, {})
      else
        let right := { right with wideForm := false }
        if right.follower.isOpen && c = '\u200D' then
          (0, { right with follower := right.follower.join })
        else if right.follower.isOpen && isUnseenMark c then (0, right)
        else
          let (columns, follower) := (combined right.follower c).getD (alone c)
          (columns, { follower })

/-- Columns of a text on a terminal. -/
def width (cs : List Char) : Nat :=
  (cs.foldr (fun c (columns, right) =>
    let (more, right) := step c right
    (columns + more, right)) ((0 : Int), ({} : Right))).1.toNat

end Reindex.Text
