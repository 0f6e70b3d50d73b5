import MarkupAssist.Text.CombiningClass

/-!
# Canonical composition

A letter with a mark can be written as one character or as two. `compose` chooses the shortest form:
it takes all characters apart, brings the marks on a letter into the order of their classes, and
puts together again what belongs together. Two texts that look the same because they differ only in
this way have the same composed form.

Capitals are not in the table, so a text is composed after its capitals are gone.
-/

namespace MarkupAssist.Text

/-- Composed characters by their marks. A row has the code point of a mark and, in turn, a character
without it and the same character with it. -/
def compositions : List (Nat × String) :=
  [(0x300, "aàeèiìoòuùüǜnǹеѐиѝēḕōṑwẁ"), (0x300, "âầăằêềôồơờưừyỳἀἂἁἃἐἒἑἓἠἢ"),
   (0x300, "ἡἣἰἲἱἳὀὂὁὃὐὒὑὓὠὢὡὣαὰεὲηὴ"), (0x300, "ιὶοὸυὺωὼϊῒϋῢ"),
   (0x301, "aáeéiíoóuúyýcćlĺnńrŕsśzź"), (0x301, "üǘgǵåǻæǽøǿϊΐαάεέηήιίϋΰοό"),
   (0x301, "υύωώгѓкќçḉēḗïḯkḱmḿõṍōṓpṕ"), (0x301, "ũṹwẃâấăắêếôốơớưứἀἄἁἅἐἔἑἕ"),
   (0x301, "ἠἤἡἥἰἴἱἵὀὄὁὅὐὔὑὕὠὤὡὥ"), (0x302, "aâeêiîoôuûcĉgĝhĥjĵsŝwŵyŷ"), (0x302, "zẑạậẹệọộ"),
   (0x303, "aãnñoõiĩuũvṽâẫăẵeẽêễôỗơỡ"), (0x303, "ưữyỹ"), (0x304, "aāeēiīoōuūüǖäǟȧǡæǣǫǭöȫõȭ"),
   (0x304, "ȯȱyȳиӣуӯgḡḷḹṛṝαᾱιῑυῡ"), (0x306, "aăeĕgğiĭoŏuŭийуўжӂаӑеӗȩḝ"), (0x306, "ạặαᾰιῐυῠ"),
   (0x307, "cċeėgġzżaȧoȯbḃdḋfḟhḣmṁnṅ"), (0x307, "pṗrṙsṡśṥšṧṣṩtṫwẇxẋyẏ𐗒𐗉𐗚𐗤"),
   (0x308, "aäeëiïoöuüyÿιϊυϋеёіїаӓәӛ"), (0x308, "жӝзӟиӥоӧөӫэӭуӱчӵыӹhḧõṏūṻ"), (0x308, "wẅxẍtẗ"),
   (0x309, "aảâẩăẳeẻêểiỉoỏôổơởuủưửyỷ"), (0x30A, "aåuůwẘyẙ"), (0x30B, "oőuűуӳ"),
   (0x30C, "cčdďeělľnňrřsštťzžaǎiǐoǒ"), (0x30C, "uǔüǚgǧkǩʒǯjǰhȟ"), (0x30F, "aȁeȅiȉoȍrȑuȕѵѷ"),
   (0x311, "aȃeȇiȋoȏrȓuȗ"), (0x313, "αἀεἐηἠιἰοὀυὐωὠρῤ"), (0x314, "αἁεἑηἡιἱοὁυὑωὡρῥ"),
   (0x31B, "oơuư"), (0x323, "bḅdḍhḥkḳlḷmṃnṇrṛsṣtṭvṿwẉ"), (0x323, "zẓaạeẹiịoọơợuụưựyỵ"),
   (0x324, "uṳ"), (0x325, "aḁ"), (0x326, "sștț"), (0x327, "cçgģkķlļnņrŗsştţeȩdḑhḩ"),
   (0x328, "aąeęiįuųoǫ"), (0x32D, "dḓeḙlḽnṋtṱuṷ"), (0x32E, "hḫ"), (0x330, "eḛiḭuṵ"),
   (0x331, "bḇdḏkḵlḻnṉrṟtṯzẕhẖ"), (0x338, "←↚→↛↔↮⇐⇍⇔⇎⇒⇏∃∄∈∉∋∌∣∤∥∦∼≁"),
   (0x338, "≃≄≅≇≈≉=≠≡≢≍≭<≮>≯≤≰≥≱≲≴≳≵"), (0x338, "≶≸≷≹≺⊀≻⊁⊂⊄⊃⊅⊆⊈⊇⊉⊢⊬⊨⊭⊩⊮⊫⊯"),
   (0x338, "≼⋠≽⋡⊑⋢⊒⋣⊲⋪⊳⋫⊴⋬⊵⋭"), (0x342, "ἀἆἁἇἠἦἡἧἰἶἱἷὐὖὑὗὠὦὡὧαᾶηῆ"), (0x342, "ιῖϊῗυῦϋῧωῶ"),
   (0x653, "\u0627\u0622"),
   (0x654, "\u0627\u0623\u0648\u0624\u064a\u0626\u06d5\u06c0\u06c1\u06c2\u06d2\u06d3"),
   (0x655, "\u0627\u0625"), (0x93C, "नऩरऱळऴ"), (0x9BE, "\u09c7\u09cb"), (0x9D7, "\u09c7\u09cc"),
   (0xB3E, "\u0b47\u0b4b"), (0xB56, "\u0b47\u0b48"), (0xB57, "\u0b47\u0b4c"),
   (0xBBE, "\u0bc6\u0bca\u0bc7\u0bcb"), (0xBD7, "ஒஔ\u0bc6\u0bcc"), (0xC56, "\u0c46\u0c48"),
   (0xCC2, "\u0cc6\u0cca"), (0xCD5, "\u0cbf\u0cc0\u0cc6\u0cc7\u0cca\u0ccb"),
   (0xCD6, "\u0cc6\u0cc8"), (0xD3E, "\u0d46\u0d4a\u0d47\u0d4b"), (0xD57, "\u0d46\u0d4c"),
   (0xDCA, "\u0dd9\u0dda\u0ddc\u0ddd"), (0xDCF, "\u0dd9\u0ddc"), (0xDDF, "\u0dd9\u0dde"),
   (0x102E, "ဥဦ"),
   (0x1B35, "ᬅᬆᬇᬈᬉᬊᬋᬌᬍᬎᬑᬒ\u1b3a\u1b3b\u1b3c\u1b3d\u1b3e\u1b40\u1b3f\u1b41\u1b42\u1b43"),
   (0x3099, "かがきぎくぐけげこごさざしじすずせぜそぞただちぢ"), (0x3099, "つづてでとどはばひびふぶへべほぼうゔゝゞカガキギ"),
   (0x3099, "クグケゲコゴサザシジスズセゼソゾタダチヂツヅテデ"), (0x3099, "トドハバヒビフブヘベホボウヴワヷヰヸヱヹヲヺヽヾ"),
   (0x309A, "はぱひぴふぷへぺほぽハパヒピフプヘペホポ"), (0x110BA, "𑂙𑂚𑂛𑂜𑂥𑂫"), (0x11127, "𑄱𑄮𑄲𑄯"), (0x1133E, "𑍇𑍋"),
   (0x11357, "𑍇𑍌"), (0x113B8, "𑏅𑎸"), (0x113BB, "𑎄𑎅"), (0x113C2, "𑎋𑎎𑏅𑏂"), (0x113C9, "𑎂𑎃𑎐𑎑𑏅𑏉"),
   (0x114B0, "𑒹𑒼"), (0x114BA, "𑒹𑒻"), (0x114BD, "𑒹𑒾"), (0x115AF, "𑖸𑖺𑖹𑖻"), (0x11930, "𑤵𑤸"),
   (0x1611E, "𖄡𖄞"), (0x1611F, "𖄦𖄩𖄤𖄡𖄦𖄢𖄧"), (0x16120, "𖄨𖄡𖄨"), (0x16129, "𖄡𖄩"), (0x16D67, "𖵨𖵧𖵣𖵩𖵩𖵪")]

/-- Consecutive pairs of a text. -/
def pairsOf : List Char → List (Char × Char)
  | a :: b :: rest => (a, b) :: pairsOf rest
  | _ => []

/-! ### Syllables of the Korean alphabet

A syllable is one character, composed of a leading consonant, a vowel and perhaps a trailing
consonant. The syllables are in the order of their parts, so they are counted and not listed. -/

/-- The first leading consonant. -/
def leadBase : Nat := 0x1100

/-- The first vowel. -/
def vowelBase : Nat := 0x1161

/-- The place before the first trailing consonant. -/
def trailBase : Nat := 0x11A7

/-- The first syllable. -/
def syllableBase : Nat := 0xAC00

/-- How many vowels there are. -/
def vowelCount : Nat := 21

/-- How many trailing consonants there are, with the missing one. -/
def trailCount : Nat := 28

/-- The parts of a syllable. -/
def syllableParts? (c : Char) : Option (List Char) :=
  let index := c.toNat - syllableBase
  if c.toNat < syllableBase || 19 * vowelCount * trailCount ≤ index then none
  else
    let lead := Char.ofNat (leadBase + index / (vowelCount * trailCount))
    let vowel := Char.ofNat (vowelBase + index % (vowelCount * trailCount) / trailCount)
    let trail := index % trailCount
    some ([lead, vowel] ++ if trail = 0 then [] else [Char.ofNat (trailBase + trail)])

/-- The syllable of a leading consonant and a vowel, or of a syllable and a trailing consonant. -/
def syllable? (a b : Char) : Option Char :=
  let lead := a.toNat - leadBase
  let vowel := b.toNat - vowelBase
  let index := a.toNat - syllableBase
  let trail := b.toNat - trailBase
  if leadBase ≤ a.toNat && lead < 19 && vowelBase ≤ b.toNat && vowel < vowelCount then
    some (Char.ofNat (syllableBase + (lead * vowelCount + vowel) * trailCount))
  else if syllableBase ≤ a.toNat && index < 19 * vowelCount * trailCount &&
      index % trailCount == 0 && trailBase < b.toNat && trail < trailCount then
    some (Char.ofNat (a.toNat + trail))
  else none

/-! ### Taking apart -/

/-- The character and the mark that a composed character consists of. -/
def parts? (c : Char) : Option (Char × Char) :=
  compositions.findSome? fun (mark, text) =>
    ((pairsOf text.toList).find? (·.2 == c)).map fun (base, _) => (base, Char.ofNat mark)

/-- A character taken apart. Its base may be composed itself, down to the given depth. -/
def decompose : Nat → Char → List Char
  | 0, c => [c]
  | depth + 1, c =>
    match syllableParts? c, parts? c with
    | some parts, _ => parts
    | none, some (base, mark) => decompose depth base ++ decompose depth mark
    | none, none => [c]

/-- How often a composed character can be taken apart. -/
def compositionDepth : Nat := 4

/-! ### Order of marks -/

/-- Append a character to a text that is given backwards. A mark goes before the marks of greater
classes. -/
def placeMark (c : Char) : List Char → List Char
  | [] => [c]
  | d :: done =>
    if combiningClass c < combiningClass d && combiningClass c != 0 then d :: placeMark c done
    else c :: d :: done

/-- A text with the marks on every character in the order of their classes. -/
def orderMarks (cs : List Char) : List Char :=
  (cs.foldl (fun done c => placeMark c done) []).reverse

/-! ### Putting together -/

/-- The character that two characters are composed to. -/
def pair? (a b : Char) : Option Char :=
  (syllable? a b).orElse fun _ =>
    (compositions.filter (·.1 == b.toNat)).findSome? fun (_, text) =>
      ((pairsOf text.toList).find? (·.1 == a)).map (·.2)

/-- A text while it is put together: the finished part, the last character that stands by itself,
and the marks after it that could not be joined to it, the last of them first. -/
structure Composing where
  done : List Char
  base : Option Char
  marks : List Char

namespace Composing

/-- The text so far. -/
def text (s : Composing) : List Char :=
  s.done ++ s.base.toList ++ s.marks.reverse

/-- Whether nothing between the base and `c` keeps them apart: a mark of the same or a greater class
would. -/
def reaches (s : Composing) (c : Char) : Bool :=
  match s.marks with
  | [] => true
  | mark :: _ => combiningClass mark < combiningClass c

/-- Append a character, joining it to the base if it can be. -/
def step (s : Composing) (c : Char) : Composing :=
  match s.base.bind fun base => if s.reaches c then pair? base c else none with
  | some joined => { s with base := some joined }
  | none =>
    if combiningClass c = 0 then ⟨s.text, some c, []⟩
    else { s with marks := c :: s.marks }

end Composing

/-- A text in its composed form. -/
def compose (cs : List Char) : List Char :=
  ((orderMarks (cs.flatMap (decompose compositionDepth))).foldl Composing.step
    ⟨[], none, []⟩).text

end MarkupAssist.Text
