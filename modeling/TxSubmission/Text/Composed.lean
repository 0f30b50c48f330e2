import TxSubmission.Text.Mark

/-!
Composed texts. A small letter and a mark may have a character of their own that stands for both.
A text is composed if every letter that can be written together with a mark after it is, and if all
other marks stand in the order of their classes: taking it apart, putting the marks in order and
writing letters and marks together again gives it back.
-/

namespace TxSubmission.Text

/-- The characters that stand for a letter and a mark: the code point of the mark, the letters, and
for each letter the character that stands for both. -/
def composites : List (Nat × String × String) :=
  [(0x300, "aeinouwyâêôüăēōơưαεηιουωϊϋеиἀἁἐἑἠἡἰἱὀὁὐὑὠὡ",
      "àèìǹòùẁỳầềồǜằḕṑờừὰὲὴὶὸὺὼῒῢѐѝἂἃἒἓἢἣἲἳὂὃὒὓὢὣ"),
   (0x301, "acegiklmnoprsuwyzâåæçêïôõøüăēōũơưαεηιουωϊϋгкἀἁἐἑἠἡἰἱὀὁὐὑὠὡ",
      "áćéǵíḱĺḿńóṕŕśúẃýźấǻǽḉếḯốṍǿǘắḗṓṹớứάέήίόύώΐΰѓќἄἅἔἕἤἥἴἵὄὅὔὕὤὥ"),
   (0x302, "aceghijosuwyzạẹọ", "âĉêĝĥîĵôŝûŵŷẑậệộ"), (0x303, "aeinouvyâêôăơư", "ãẽĩñõũṽỹẫễỗẵỡữ"),
   (0x304, "aegiouyäæõöüǫȧȯαιυиуḷṛ", "āēḡīōūȳǟǣȭȫǖǭǡȱᾱῑῡӣӯḹṝ"),
   (0x306, "aegiouȩαιυаежиуạ", "ăĕğĭŏŭḝᾰῐῠӑӗӂйўặ"),
   (0x307, "abcdefghmnoprstwxyzśšṣ", "ȧḃċḋėḟġḣṁṅȯṗṙṡṫẇẋẏżṥṧṩ"),
   (0x308, "aehiotuwxyõūιυаежзиоучыэіәө", "äëḧïöẗüẅẍÿṏṻϊϋӓёӝӟӥӧӱӵӹӭїӛӫ"),
   (0x309, "aeiouyâêôăơư", "ảẻỉỏủỷẩểổẳởử"), (0x30a, "auwy", "åůẘẙ"), (0x30b, "ouу", "őűӳ"),
   (0x30c, "acdeghijklnorstuzüʒ", "ǎčďěǧȟǐǰǩľňǒřšťǔžǚǯ"), (0x30f, "aeioruѵ", "ȁȅȉȍȑȕѷ"),
   (0x311, "aeioru", "ȃȇȋȏȓȗ"), (0x313, "αεηιορυω", "ἀἐἠἰὀῤὐὠ"), (0x314, "αεηιορυω", "ἁἑἡἱὁῥὑὡ"),
   (0x31b, "ou", "ơư"), (0x323, "abdehiklmnorstuvwyzơư", "ạḅḍẹḥịḳḷṃṇọṛṣṭụṿẉỵẓợự"),
   (0x324, "u", "ṳ"), (0x325, "a", "ḁ"), (0x326, "st", "șț"),
   (0x327, "cdeghklnrst", "çḑȩģḩķļņŗşţ"), (0x328, "aeiou", "ąęįǫų"), (0x32d, "delntu", "ḓḙḽṋṱṷ"),
   (0x32e, "h", "ḫ"), (0x330, "eiu", "ḛḭṵ"), (0x331, "bdhklnrtz", "ḇḏẖḵḻṉṟṯẕ"),
   (0x342, "αηιυωϊϋἀἁἠἡἰἱὐὑὠὡ", "ᾶῆῖῦῶῗῧἆἇἦἧἶἷὖὗὦὧ"), (0x653, "ا", "آ"),
   (0x654, "اويہےە", "أؤئۂۓۀ"), (0x655, "ا", "إ"), (0x93c, "नरळ", "ऩऱऴ"), (0x9be, "ে", "ো"),
   (0x9d7, "ে", "ৌ"), (0xb3e, "େ", "ୋ"), (0xb56, "େ", "ୈ"), (0xb57, "େ", "ୌ"), (0xbbe, "ெே", "ொோ"),
   (0xbd7, "ஒெ", "ஔௌ"), (0xc56, "ె", "ై"), (0xcc2, "ೆ", "ೊ"), (0xcd5, "ಿೆೊ", "ೀೇೋ"),
   (0xcd6, "ೆ", "ೈ"), (0xd3e, "െേ", "ൊോ"), (0xd57, "െ", "ൌ"), (0xdca, "ෙො", "ේෝ"),
   (0xdcf, "ෙ", "ො"), (0xddf, "ෙ", "ෞ"), (0x102e, "ဥ", "ဦ"),
   (0x1b35, "ᬅᬇᬉᬋᬍᬑᬺᬼᬾᬿᭂ", "ᬆᬈᬊᬌᬎᬒᬻᬽᭀᭁᭃ"),
   (0x3099, "うかきくけこさしすせそたちつてとはひふへほゝウカキクケコサシスセソタチツテトハヒフヘホワヰヱヲヽ",
      "ゔがぎぐげござじずぜぞだぢづでどばびぶべぼゞヴガギグゲゴザジズゼゾダヂヅデドバビブベボヷヸヹヺヾ"),
   (0x309a, "はひふへほハヒフヘホ", "ぱぴぷぺぽパピプペポ"), (0x110ba, "𑂙𑂛𑂥", "𑂚𑂜𑂫"), (0x11127, "𑄱𑄲", "𑄮𑄯"),
   (0x1133e, "𑍇", "𑍋"), (0x11357, "𑍇", "𑍌"), (0x114b0, "𑒹", "𑒼"), (0x114ba, "𑒹", "𑒻"),
   (0x114bd, "𑒹", "𑒾"), (0x115af, "𑖸𑖹", "𑖺𑖻"), (0x11930, "𑤵", "𑤸")]

def compose? (letter mark : Char) : Option Char :=
  (composites.find? fun (code, _) => code = mark.toNat).bind fun (_, letters, wholes) =>
    (letters.toList.zip wholes.toList).lookup letter

def decompose? (whole : Char) : Option (Char × Char) :=
  composites.findSome? fun (code, letters, wholes) =>
    ((wholes.toList.zip letters.toList).lookup whole).map (·, Char.ofNat code)

def takenApart : Nat → Char → List Char
  | 0, c => [c]
  | steps + 1, c =>
    match decompose? c with
    | some (letter, mark) => takenApart steps letter ++ [mark]
    | none => [c]

def mostMarks : Nat := 3

/-- Puts a mark behind all marks before it whose class is not greater; no mark passes a letter. The
characters before it are given from the last to the first. -/
def insertMark (mark : Char) : List Char → List Char
  | [] => [mark]
  | last :: before =>
    if markClass mark ≠ 0 ∧ markClass mark < markClass last then last :: insertMark mark before
    else mark :: last :: before

def ordered (s : List Char) : List Char :=
  (s.foldl (fun before c => insertMark c before) []).reverse

/-- How far a text has been written together: the letter to which marks may still be added, the
marks that it could not take, from the last to the first, and all before the letter. -/
structure Composing where
  before : List Char := []
  letter : Option Char := none
  marks : List Char := []

def Composing.text (state : Composing) : List Char :=
  state.before ++ state.letter.toList ++ state.marks.reverse

/-- Whether a character may still be added to the letter before it: no mark of its class or of a
greater one stands between. -/
def Composing.reaches (state : Composing) (c : Char) : Bool :=
  match state.marks.head? with
  | some last => markClass last < markClass c
  | none => true

def Composing.keep (state : Composing) (c : Char) : Composing :=
  if markClass c = 0 then { before := state.text, letter := some c }
  else { state with marks := c :: state.marks }

def Composing.write (state : Composing) (c : Char) : Composing :=
  match state.letter.bind (compose? · c) with
  | some whole => if state.reaches c then { state with letter := some whole } else state.keep c
  | none => state.keep c

def composed (s : List Char) : List Char :=
  ((ordered (s.flatMap (takenApart mostMarks))).foldl Composing.write {}).text

def isComposed (s : List Char) : Bool := composed s == s

end TxSubmission.Text
