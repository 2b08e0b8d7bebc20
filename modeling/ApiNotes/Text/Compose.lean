import ApiNotes.Text.Mark

/-!
# Composed letters

A letter with marks may be written as one character or as a letter and its marks. Composing
a text takes its characters apart, puts the marks of each letter in the order of their
combining classes, and joins each letter with as many of its marks as it can. A mark cannot
pass another one of its class, nor one of a higher class. Syllables of Hangul are taken
apart and joined by counting, all other characters by a table.
-/

namespace ApiNotes

namespace Text

/-- The letters that are joined with a character, given by its code point: the letters, and
what becomes of each of them. -/
def compositions : List (Nat × String × String) :=
  [(0x300, "AEIOUaeiouÜüNnЕИеиĒēŌōWwÂâĂăÊêÔôƠơƯư", "ÀÈÌÒÙàèìòùǛǜǸǹЀЍѐѝḔḕṐṑẀẁẦầẰằỀềỒồỜờỪừ"),
   (0x300, "YyἀἁἈἉἐἑἘἙἠἡἨἩἰἱἸἹὀὁὈὉὐὑὙὠὡὨὩαεηιουω", "ỲỳἂἃἊἋἒἓἚἛἢἣἪἫἲἳἺἻὂὃὊὋὒὓὛὢὣὪὫὰὲὴὶὸὺὼ"),
   (0x300, "ΑΕΗ᾿ϊΙ῾ϋΥ¨ΟΩ", "ᾺῈῊ῍ῒῚ῝ῢῪ῭ῸῺ"),
   (0x301, "AEIOUYaeiouyCcLlNnRrSsZzÜüGgÅåÆæØø¨Α", "ÁÉÍÓÚÝáéíóúýĆćĹĺŃńŔŕŚśŹźǗǘǴǵǺǻǼǽǾǿ΅Ά"),
   (0x301, "ΕΗΙΟΥΩϊαεηιϋουωϒГКгкÇçĒēÏïKkMmÕõŌōPp", "ΈΉΊΌΎΏΐάέήίΰόύώϓЃЌѓќḈḉḖḗḮḯḰḱḾḿṌṍṒṓṔṕ"),
   (0x301, "ŨũWwÂâĂăÊêÔôƠơƯưἀἁἈἉἐἑἘἙἠἡἨἩἰἱἸἹὀὁὈὉ", "ṸṹẂẃẤấẮắẾếỐốỚớỨứἄἅἌἍἔἕἜἝἤἥἬἭἴἵἼἽὄὅὌὍ"),
   (0x301, "ὐὑὙὠὡὨὩ᾿῾", "ὔὕὝὤὥὬὭ῎῞"),
   (0x302, "AEIOUaeiouCcGgHhJjSsWwYyZzẠạẸẹỌọ", "ÂÊÎÔÛâêîôûĈĉĜĝĤĥĴĵŜŝŴŵŶŷẐẑẬậỆệỘộ"),
   (0x303, "ANOanoIiUuVvÂâĂăEeÊêÔôƠơƯưYy", "ÃÑÕãñõĨĩŨũṼṽẪẫẴẵẼẽỄễỖỗỠỡỮữỸỹ"),
   (0x304, "AaEeIiOoUuÜüÄäȦȧÆæǪǫÖöÕõȮȯYyИиУуGgḶḷ", "ĀāĒēĪīŌōŪūǕǖǞǟǠǡǢǣǬǭȪȫȬȭȰȱȲȳӢӣӮӯḠḡḸḹ"),
   (0x304, "ṚṛαΑιΙυΥ", "ṜṝᾱᾹῑῙῡῩ"),
   (0x306, "AaEeGgIiOoUuУИиуЖжАаЕеȨȩẠạαΑιΙυΥ", "ĂăĔĕĞğĬĭŎŏŬŭЎЙйўӁӂӐӑӖӗḜḝẶặᾰᾸῐῘῠῨ"),
   (0x307, "CcEeGgIZzAaOoBbDdFfHhMmNnPpRrSsŚśŠšṢ", "ĊċĖėĠġİŻżȦȧȮȯḂḃḊḋḞḟḢḣṀṁṄṅṖṗṘṙṠṡṤṥṦṧṨ"),
   (0x307, "ṣTtWwXxYyſ𐗒𐗚", "ṩṪṫẆẇẊẋẎẏẛ𐗉𐗤"),
   (0x308, "AEIOUaeiouyYΙΥιυϒЕІеіАаӘәЖжЗзИиОоӨөЭ", "ÄËÏÖÜäëïöüÿŸΪΫϊϋϔЁЇёїӒӓӚӛӜӝӞӟӤӥӦӧӪӫӬ"),
   (0x308, "эУуЧчЫыHhÕõŪūWwXxt", "ӭӰӱӴӵӸӹḦḧṎṏṺṻẄẅẌẍẗ"),
   (0x309, "AaÂâĂăEeÊêIiOoÔôƠơUuƯưYy", "ẢảẨẩẲẳẺẻỂểỈỉỎỏỔổỞởỦủỬửỶỷ"), (0x30A, "AaUuwy", "ÅåŮůẘẙ"),
   (0x30B, "OoUuУу", "ŐőŰűӲӳ"),
   (0x30C, "CcDdEeLlNnRrSsTtZzAaIiOoUuÜüGgKkƷʒjH", "ČčĎďĚěĽľŇňŘřŠšŤťŽžǍǎǏǐǑǒǓǔǙǚǦǧǨǩǮǯǰȞ"),
   (0x30C, "h", "ȟ"), (0x30F, "AaEeIiOoRrUuѴѵ", "ȀȁȄȅȈȉȌȍȐȑȔȕѶѷ"),
   (0x311, "AaEeIiOoRrUu", "ȂȃȆȇȊȋȎȏȒȓȖȗ"), (0x313, "αΑεΕηΗιΙοΟυωΩρ", "ἀἈἐἘἠἨἰἸὀὈὐὠὨῤ"),
   (0x314, "αΑεΕηΗιΙοΟυΥωΩρΡ", "ἁἉἑἙἡἩἱἹὁὉὑὙὡὩῥῬ"), (0x31B, "OoUu", "ƠơƯư"),
   (0x323, "BbDdHhKkLlMmNnRrSsTtVvWwZzAaEeIiOoƠơ", "ḄḅḌḍḤḥḲḳḶḷṂṃṆṇṚṛṢṣṬṭṾṿẈẉẒẓẠạẸẹỊịỌọỢợ"),
   (0x323, "UuƯưYy", "ỤụỰựỴỵ"), (0x324, "Uu", "Ṳṳ"), (0x325, "Aa", "Ḁḁ"), (0x326, "SsTt", "ȘșȚț"),
   (0x327, "CcGgKkLlNnRrSsTtEeDdHh", "ÇçĢģĶķĻļŅņŖŗŞşŢţȨȩḐḑḨḩ"),
   (0x328, "AaEeIiUuOo", "ĄąĘęĮįŲųǪǫ"), (0x32D, "DdEeLlNnTtUu", "ḒḓḘḙḼḽṊṋṰṱṶṷ"),
   (0x32E, "Hh", "Ḫḫ"), (0x330, "EeIiUu", "ḚḛḬḭṴṵ"),
   (0x331, "BbDdKkLlNnRrTtZzh", "ḆḇḎḏḴḵḺḻṈṉṞṟṮṯẔẕẖ"),
   (0x338, "←→↔⇐⇔⇒∃∈∋∣∥∼≃≅≈=≡≍<>≤≥≲≳≶≷≺≻⊂⊃⊆⊇⊢⊨⊩⊫", "↚↛↮⇍⇎⇏∄∉∌∤∦≁≄≇≉≠≢≭≮≯≰≱≴≵≸≹⊀⊁⊄⊅⊈⊉⊬⊭⊮⊯"),
   (0x338, "≼≽⊑⊒⊲⊳⊴⊵", "⋠⋡⋢⋣⋪⋫⋬⋭"),
   (0x342, "ἀἁἈἉἠἡἨἩἰἱἸἹὐὑὙὠὡὨὩα¨η᾿ιϊ῾υϋω", "ἆἇἎἏἦἧἮἯἶἷἾἿὖὗὟὦὧὮὯᾶ῁ῆ῏ῖῗ῟ῦῧῶ"),
   (0x345, "ἀἁἂἃἄἅἆἇἈἉἊἋἌἍἎἏἠἡἢἣἤἥἦἧἨἩἪἫἬἭἮἯὠὡὢὣ", "ᾀᾁᾂᾃᾄᾅᾆᾇᾈᾉᾊᾋᾌᾍᾎᾏᾐᾑᾒᾓᾔᾕᾖᾗᾘᾙᾚᾛᾜᾝᾞᾟᾠᾡᾢᾣ"),
   (0x345, "ὤὥὦὧὨὩὪὫὬὭὮὯὰαάᾶΑὴηήῆΗὼωώῶΩ", "ᾤᾥᾦᾧᾨᾩᾪᾫᾬᾭᾮᾯᾲᾳᾴᾷᾼῂῃῄῇῌῲῳῴῷῼ"),
   (0x653, "\u0627", "\u0622"),
   (0x654, "\u0627\u0648\u064a\u06d5\u06c1\u06d2", "\u0623\u0624\u0626\u06c0\u06c2\u06d3"),
   (0x655, "\u0627", "\u0625"), (0x93C, "नरळ", "ऩऱऴ"), (0x9BE, "\u09c7", "\u09cb"),
   (0x9D7, "\u09c7", "\u09cc"), (0xB3E, "\u0b47", "\u0b4b"), (0xB56, "\u0b47", "\u0b48"),
   (0xB57, "\u0b47", "\u0b4c"), (0xBBE, "\u0bc6\u0bc7", "\u0bca\u0bcb"),
   (0xBD7, "ஒ\u0bc6", "ஔ\u0bcc"), (0xC56, "\u0c46", "\u0c48"), (0xCC2, "\u0cc6", "\u0cca"),
   (0xCD5, "\u0cbf\u0cc6\u0cca", "\u0cc0\u0cc7\u0ccb"), (0xCD6, "\u0cc6", "\u0cc8"),
   (0xD3E, "\u0d46\u0d47", "\u0d4a\u0d4b"), (0xD57, "\u0d46", "\u0d4c"),
   (0xDCA, "\u0dd9\u0ddc", "\u0dda\u0ddd"), (0xDCF, "\u0dd9", "\u0ddc"),
   (0xDDF, "\u0dd9", "\u0dde"), (0x102E, "ဥ", "ဦ"),
   (0x1B35, "ᬅᬇᬉᬋᬍᬑ\u1b3a\u1b3c\u1b3e\u1b3f\u1b42", "ᬆᬈᬊᬌᬎᬒ\u1b3b\u1b3d\u1b40\u1b41\u1b43"),
   (0x3099, "かきくけこさしすせそたちつてとはひふへほうゝカキクケコサシスセソタチツテ", "がぎぐげござじずぜぞだぢづでどばびぶべぼゔゞガギグゲゴザジズゼゾダヂヅデ"),
   (0x3099, "トハヒフヘホウワヰヱヲヽ", "ドバビブベボヴヷヸヹヺヾ"), (0x309A, "はひふへほハヒフヘホ", "ぱぴぷぺぽパピプペポ"),
   (0x110BA, "𑂙𑂛𑂥", "𑂚𑂜𑂫"), (0x11127, "𑄱𑄲", "𑄮𑄯"), (0x1133E, "𑍇", "𑍋"), (0x11357, "𑍇", "𑍌"),
   (0x113B8, "𑏂", "𑏇"), (0x113BB, "𑎄", "𑎅"), (0x113C2, "𑎎", "𑎎𑏅"), (0x113C9, "𑎂𑎐𑏂", "𑎃𑎑𑏈"),
   (0x114B0, "𑒹", "𑒼"), (0x114BA, "𑒹", "𑒻"), (0x114BD, "𑒹", "𑒾"), (0x115AF, "𑖸𑖹", "𑖺𑖻"),
   (0x11930, "𑤵", "𑤸"), (0x1611E, "𖄞", "𖄡"), (0x1611F, "𖄢𖄡𖄢", "𖄣𖄤𖄦𖄧"), (0x16120, "𖄡𖄞", "𖄥𖄨"),
   (0x16129, "𖄞", "𖄢"), (0x16D67, "𖵧𖵣𖵩", "𖵨𖵩𖵪")]

/-- The syllable of Hangul that two parts are joined to: a consonant and a vowel, or such a
pair and the consonant that ends it. -/
def joinHangul? (a b : Nat) : Option Nat :=
  if 0x1100 ≤ a ∧ a ≤ 0x1112 ∧ 0x1161 ≤ b ∧ b ≤ 0x1175 then
    some (0xAC00 + ((a - 0x1100) * 21 + (b - 0x1161)) * 28)
  else if 0xAC00 ≤ a ∧ a ≤ 0xD7A3 ∧ (a - 0xAC00) % 28 = 0 ∧ 0x11A8 ≤ b ∧ b ≤ 0x11C2 then
    some (a + (b - 0x11A7))
  else none

/-- The character that two characters are joined to. -/
def join? (a b : Char) : Option Char :=
  match joinHangul? a.toNat b.toNat with
  | some n => some (Char.ofNat n)
  | none =>
    compositions.findSome? fun (mark, letters, joined) =>
      if mark = b.toNat then (letters.toList.zip joined.toList).lookup a else none

/-- The parts of a syllable of Hangul, by its place among them. -/
def hangulParts (place : Nat) : List Char :=
  let start := [0x1100 + place / 588, 0x1161 + place % 588 / 28]
  let final := if place % 28 = 0 then [] else [0x11A7 + place % 28]
  (start ++ final).map Char.ofNat

/-- The two characters that are joined to a character. -/
def halves? (c : Char) : Option (Char × Char) :=
  compositions.findSome? fun (mark, letters, joined) =>
    ((joined.toList.zip letters.toList).lookup c).map fun letter => (letter, Char.ofNat mark)

/-- The parts of a character that is joined of at most `n` marks and a letter. -/
def partsUpTo : Nat → Char → List Char
  | 0, c => [c]
  | n + 1, c =>
    match halves? c with
    | none => [c]
    | some (a, b) => partsUpTo n a ++ [b]

/-- The parts of a character. No character has more than three marks, and none below U+00C0
has parts. -/
def parts (c : Char) : List Char :=
  let n := c.toNat
  if n < 0xC0 then [c]
  else if 0xAC00 ≤ n ∧ n ≤ 0xD7A3 then hangulParts (n - 0xAC00)
  else partsUpTo 3 c

/-- Marks in the order of their classes; marks of one class keep their order. -/
def sortMarks (marks : List Char) : List Char :=
  marks.mergeSort fun a b => combiningClass a ≤ combiningClass b

/-- A text in which the marks of each letter are in order, behind the given marks. -/
def orderMarks (marks : List Char) : List Char → List Char
  | [] => sortMarks marks
  | c :: cs =>
    if combiningClass c = 0 then sortMarks marks ++ c :: orderMarks [] cs
    else orderMarks (marks ++ [c]) cs

/-- Joins a letter with what follows it; the marks that it was not joined with stand between
them. -/
def joinFrom (letter : Char) (between : List Char) : List Char → List Char
  | [] => letter :: between
  | c :: cs =>
    let isNear := between.all fun mark => combiningClass mark < combiningClass c
    match if isNear then join? letter c else none with
    | some joined => joinFrom joined between cs
    | none =>
      if combiningClass c = 0 then letter :: between ++ joinFrom c [] cs
      else joinFrom letter (between ++ [c]) cs

/-- A text in which letters are joined with their marks. -/
def compose (text : List Char) : List Char :=
  match orderMarks [] (text.flatMap parts) with
  | [] => []
  | c :: cs => joinFrom c [] cs

end Text

end ApiNotes
