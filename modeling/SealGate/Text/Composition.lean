import SealGate.Text.Mark

/-! Canonical composition. A letter with marks can be spelled in several ways; composing takes all
characters apart, sorts the marks behind each letter by their class, and puts together what has a
character of its own. The table of pairs holds the composed characters that names may have, in
Unicode 17; syllables of Hangul are put together by their numbers. -/

namespace SealGate.Text.Composition

/-! ### Pairs -/

/-- By the character behind: letters, each with the character that the two compose. -/
def table : List (Nat × String) := [
  (0x300, "aàeèiìoòuùüǜnǹеѐиѝēḕōṑwẁâầăằêềôồơờưừyỳἀἂἁἃἐἒἑἓἠἢἡἣἰἲἱἳὀὂὁὃὐὒὑὓὠὢὡὣαὰεὲηὴιὶοὸυὺωὼϊῒϋῢ"),
  (0x301, "aáeéiíoóuúyýcćlĺnńrŕsśzźüǘgǵåǻæǽøǿϊΐαάεέηήιίϋΰοόυύωώгѓкќçḉēḗïḯkḱmḿõṍōṓpṕũṹwẃâấăắêếôốơớ"),
  (0x301, "ưứἀἄἁἅἐἔἑἕἠἤἡἥἰἴἱἵὀὄὁὅὐὔὑὕὠὤὡὥ"), (0x302, "aâeêiîoôuûcĉgĝhĥjĵsŝwŵyŷzẑạậẹệọộ"),
  (0x303, "aãnñoõiĩuũvṽâẫăẵeẽêễôỗơỡưữyỹ"), (0x304, "aāeēiīoōuūüǖäǟȧǡæǣǫǭöȫõȭȯȱyȳиӣуӯgḡḷḹṛṝαᾱιῑυῡ"),
  (0x306, "aăeĕgğiĭoŏuŭийуўжӂаӑеӗȩḝạặαᾰιῐυῠ"),
  (0x307, "cċeėgġzżaȧoȯbḃdḋfḟhḣmṁnṅpṗrṙsṡśṥšṧṣṩtṫwẇxẋyẏ𐗒𐗉𐗚𐗤"),
  (0x308, "aäeëiïoöuüyÿιϊυϋеёіїаӓәӛжӝзӟиӥоӧөӫэӭуӱчӵыӹhḧõṏūṻwẅxẍtẗ"),
  (0x309, "aảâẩăẳeẻêểiỉoỏôổơởuủưửyỷ"), (0x30A, "aåuůwẘyẙ"), (0x30B, "oőuűуӳ"),
  (0x30C, "cčdďeělľnňrřsštťzžaǎiǐoǒuǔüǚgǧkǩʒǯjǰhȟ"), (0x30F, "aȁeȅiȉoȍrȑuȕѵѷ"),
  (0x311, "aȃeȇiȋoȏrȓuȗ"), (0x313, "αἀεἐηἠιἰοὀυὐωὠρῤ"), (0x314, "αἁεἑηἡιἱοὁυὑωὡρῥ"),
  (0x31B, "oơuư"), (0x323, "bḅdḍhḥkḳlḷmṃnṇrṛsṣtṭvṿwẉzẓaạeẹiịoọơợuụưựyỵ"), (0x324, "uṳ"),
  (0x325, "aḁ"), (0x326, "sștț"), (0x327, "cçgģkķlļnņrŗsştţeȩdḑhḩ"), (0x328, "aąeęiįuųoǫ"),
  (0x32D, "dḓeḙlḽnṋtṱuṷ"), (0x32E, "hḫ"), (0x330, "eḛiḭuṵ"), (0x331, "bḇdḏkḵlḻnṉrṟtṯzẕhẖ"),
  (0x338, "←↚→↛↔↮⇐⇍⇔⇎⇒⇏∃∄∈∉∋∌∣∤∥∦∼≁≃≄≅≇≈≉=≠≡≢≍≭<≮>≯≤≰≥≱≲≴≳≵≶≸≷≹≺⊀≻⊁⊂⊄⊃⊅⊆⊈⊇⊉⊢⊬⊨⊭⊩⊮⊫⊯≼⋠≽⋡⊑⋢⊒⋣⊲⋪⊳⋫⊴⋬"),
  (0x338, "⊵⋭"), (0x342, "ἀἆἁἇἠἦἡἧἰἶἱἷὐὖὑὗὠὦὡὧαᾶηῆιῖϊῗυῦϋῧωῶ"), (0x653, "اآ"),
  (0x654, "اأوؤيئەۀہۂےۓ"), (0x655, "اإ"), (0x93C, "नऩरऱळऴ"), (0x9BE, "\u09c7\u09cb"),
  (0x9D7, "\u09c7\u09cc"), (0xB3E, "\u0b47\u0b4b"), (0xB56, "\u0b47\u0b48"),
  (0xB57, "\u0b47\u0b4c"), (0xBBE, "\u0bc6\u0bca\u0bc7\u0bcb"), (0xBD7, "ஒஔ\u0bc6\u0bcc"),
  (0xC56, "\u0c46\u0c48"), (0xCC2, "\u0cc6\u0cca"), (0xCD5, "\u0cbf\u0cc0\u0cc6\u0cc7\u0cca\u0ccb"),
  (0xCD6, "\u0cc6\u0cc8"), (0xD3E, "\u0d46\u0d4a\u0d47\u0d4b"), (0xD57, "\u0d46\u0d4c"),
  (0xDCA, "\u0dd9\u0dda\u0ddc\u0ddd"), (0xDCF, "\u0dd9\u0ddc"), (0xDDF, "\u0dd9\u0dde"),
  (0x102E, "ဥဦ"),
  (0x1B35, "ᬅᬆᬇᬈᬉᬊᬋᬌᬍᬎᬑᬒ\u1b3a\u1b3b\u1b3c\u1b3d\u1b3e\u1b40\u1b3f\u1b41\u1b42\u1b43"),
  (0x3099, "かがきぎくぐけげこごさざしじすずせぜそぞただちぢつづてでとどはばひびふぶへべほぼうゔゝゞカガキギクグケゲコゴサザシジスズセゼソゾタダチヂツヅテデトドハバヒビフブヘベホボ"),
  (0x3099, "ウヴワヷヰヸヱヹヲヺヽヾ"), (0x309A, "はぱひぴふぷへぺほぽハパヒピフプヘペホポ"), (0x110BA, "𑂙𑂚𑂛𑂜𑂥𑂫"),
  (0x11127, "𑄱𑄮𑄲𑄯"), (0x1133E, "𑍇𑍋"), (0x11357, "𑍇𑍌"), (0x113B8, "𑏅𑎸"), (0x113BB, "𑎄𑎅"),
  (0x113C2, "𑎋𑎎𑏅𑏂"), (0x113C9, "𑎂𑎃𑎐𑎑𑏅𑏉"), (0x114B0, "𑒹𑒼"), (0x114BA, "𑒹𑒻"), (0x114BD, "𑒹𑒾"),
  (0x115AF, "𑖸𑖺𑖹𑖻"), (0x11930, "𑤵𑤸"), (0x1611E, "𖄡𖄞"), (0x1611F, "𖄦𖄩𖄤𖄡𖄦𖄢𖄧"), (0x16120, "𖄨𖄡𖄨"),
  (0x16129, "𖄡𖄩"), (0x16D67, "𖵨𖵧𖵣𖵩𖵩𖵪")]

def couples : List Char → List (Char × Char)
  | letter :: composed :: rest => (letter, composed) :: couples rest
  | _ => []

/-- A letter, the character behind it, and what they compose. -/
def pairs : List (Char × Char × Char) :=
  table.flatMap fun (behind, row) =>
    (couples row.toList).map fun (letter, composed) => (letter, Char.ofNat behind, composed)

/-! ### Hangul -/

def leadBase : Nat := 0x1100

def vowelBase : Nat := 0x1161

def tailBase : Nat := 0x11A7

def syllableBase : Nat := 0xAC00

def vowelCount : Nat := 21

def tailCount : Nat := 28

def syllableCount : Nat := 19 * vowelCount * tailCount

def isSyllable (n : Nat) : Bool := syllableBase ≤ n && n < syllableBase + syllableCount

/-- The number of a syllable among those without a tail, if it is one. -/
def open? (n : Nat) : Option Nat :=
  if isSyllable n && (n - syllableBase) % tailCount = 0 then some ((n - syllableBase) / tailCount)
  else none

def splitSyllable (n : Nat) : Char × Char :=
  match open? n with
  | some number =>
    (Char.ofNat (leadBase + number / vowelCount), Char.ofNat (vowelBase + number % vowelCount))
  | none =>
    let tail := (n - syllableBase) % tailCount
    (Char.ofNat (n - tail), Char.ofNat (tailBase + tail))

def joinSyllable? (a b : Nat) : Option Char :=
  if leadBase ≤ a && a < leadBase + 19 && vowelBase ≤ b && b < vowelBase + vowelCount then
    some (Char.ofNat
      (syllableBase + ((a - leadBase) * vowelCount + (b - vowelBase)) * tailCount))
  else if (open? a).isSome && tailBase < b && b < tailBase + tailCount then
    some (Char.ofNat (a + (b - tailBase)))
  else none

/-! ### Taking apart -/

def parts? (c : Char) : Option (Char × Char) :=
  if c.toNat < 0xC0 then none
  else if isSyllable c.toNat then some (splitSyllable c.toNat)
  else (pairs.find? fun (_, _, composed) => composed = c).map fun (letter, behind, _) =>
    (letter, behind)

/-- A character in at most so many steps. -/
def apart : (steps : Nat) → Char → List Char
  | 0, c => [c]
  | steps + 1, c =>
    match parts? c with
    | some (letter, behind) => apart steps letter ++ [behind]
    | none => [c]

/-- No character has more than three marks. -/
def stepLimit : Nat := 4

/-- Puts a mark behind those of lower class. -/
def place (c : Char) : List Char → List Char
  | [] => [c]
  | d :: text =>
    if Mark.order d ≠ 0 ∧ Mark.order d < Mark.order c then d :: place c text else c :: d :: text

/-- A text taken apart, its marks in order. -/
def decompose (text : List Char) : List Char := (text.flatMap (apart stepLimit)).foldr place []

/-! ### Putting together -/

def join? (a b : Char) : Option Char :=
  match joinSyllable? a.toNat b.toNat with
  | some syllable => some syllable
  | none =>
    (pairs.find? fun (letter, behind, _) => letter = a ∧ behind = b).map fun (_, _, composed) =>
      composed

/-- Puts a letter together with what comes behind it. Marks that were passed stay, and keep what is
not of a higher class from the letter. -/
def joinAll (letter : Char) (passed : List Char) : List Char → List Char
  | [] => letter :: passed
  | c :: text =>
    let isFree := passed.getLast?.all fun mark => Mark.order mark < Mark.order c
    match if isFree then join? letter c else none with
    | some composed => joinAll composed passed text
    | none =>
      if Mark.order c = 0 then letter :: passed ++ joinAll c [] text
      else joinAll letter (passed ++ [c]) text

/-- A text in composed form. -/
def compose (text : List Char) : List Char :=
  match decompose text with
  | [] => []
  | c :: text => joinAll c [] text

end SealGate.Text.Composition
