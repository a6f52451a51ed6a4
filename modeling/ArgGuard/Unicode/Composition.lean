import ArgGuard.Unicode.Combining

/-!
# Composition

Many letters with a mark exist as one character as well. A table says which two characters one
stands for; the syllables of Hangul follow from their place in the block by arithmetic.
-/

namespace ArgGuard.Unicode.Composition

/-- By mark, the letters that take the mark, each before the letter that it makes with it. -/
def letterRows : List (Nat × List String) :=
  [(0x300,
    ["AÀEÈIÌNǸOÒUÙWẀYỲaàeèiìnǹoòuùwẁyỳÂẦÊỀÔỒÜǛâầêềôồüǜĂẰăằĒḔēḕŌṐōṑƠỜơờƯỪưừΑᾺΕῈΗῊΙῚΟῸΥῪΩῺαὰεὲηὴ",
     "ιὶοὸυὺωὼϊῒϋῢЕЀИЍеѐиѝἀἂἁἃἈἊἉἋἐἒἑἓἘἚἙἛἠἢἡἣἨἪἩἫἰἲἱἳἸἺἹἻὀὂὁὃὈὊὉὋὐὒὑὓὙὛὠὢὡὣὨὪὩὫ"]),
   (0x301,
    ["AÁCĆEÉGǴIÍKḰLĹMḾNŃOÓPṔRŔSŚUÚWẂYÝZŹaácćeégǵiíkḱlĺmḿnńoópṕrŕsśuúwẃyýzźÂẤÅǺÆǼÇḈÊẾÏḮÔỐÕṌØǾÜǗ",
     "âấåǻæǽçḉêếïḯôốõṍøǿüǘĂẮăắĒḖēḗŌṒōṓŨṸũṹƠỚơớƯỨưứΑΆΕΈΗΉΙΊΟΌΥΎΩΏαάεέηήιίοόυύωώϊΐϋΰϒϓГЃКЌгѓкќἀἄ",
     "ἁἅἈἌἉἍἐἔἑἕἘἜἙἝἠἤἡἥἨἬἩἭἰἴἱἵἸἼἹἽὀὄὁὅὈὌὉὍὐὔὑὕὙὝὠὤὡὥὨὬὩὭ"]),
   (0x302, ["AÂCĈEÊGĜHĤIÎJĴOÔSŜUÛWŴYŶZẐaâcĉeêgĝhĥiîjĵoôsŝuûwŵyŷzẑẠẬạậẸỆẹệỌỘọộ"]),
   (0x303, ["AÃEẼIĨNÑOÕUŨVṼYỸaãeẽiĩnñoõuũvṽyỹÂẪÊỄÔỖâẫêễôỗĂẴăẵƠỠơỡƯỮưữ"]),
   (0x304,
    ["AĀEĒGḠIĪOŌUŪYȲaāeēgḡiīoōuūyȳÄǞÆǢÕȬÖȪÜǕäǟæǣõȭöȫüǖǪǬǫǭȦǠȧǡȮȰȯȱΑᾹΙῙΥῩαᾱιῑυῡИӢУӮиӣуӯḶḸḷḹṚṜṛṝ"]),
   (0x306, ["AĂEĔGĞIĬOŎUŬaăeĕgğiĭoŏuŭȨḜȩḝΑᾸΙῘΥῨαᾰιῐυῠАӐЕӖЖӁИЙУЎаӑеӗжӂийуўẠẶạặ"]),
   (0x307,
    ["AȦBḂCĊDḊEĖFḞGĠHḢIİMṀNṄOȮPṖRṘSṠTṪWẆXẊYẎZŻaȧbḃcċdḋeėfḟgġhḣmṁnṅoȯpṗrṙsṡtṫwẇxẋyẏzżŚṤśṥŠṦšṧſẛ",
     "ṢṨṣṩ𐗒𐗉𐗚𐗤"]),
   (0x308,
    ["AÄEËHḦIÏOÖUÜWẄXẌYŸaäeëhḧiïoötẗuüwẅxẍyÿÕṎõṏŪṺūṻΙΪΥΫιϊυϋϒϔІЇАӒЕЁЖӜЗӞИӤОӦУӰЧӴЫӸЭӬаӓеёжӝзӟиӥ",
     "оӧуӱчӵыӹэӭіїӘӚәӛӨӪөӫ"]),
   (0x309, ["AẢEẺIỈOỎUỦYỶaảeẻiỉoỏuủyỷÂẨÊỂÔỔâẩêểôổĂẲăẳƠỞơởƯỬưử"]), (0x30A, ["AÅUŮaåuůwẘyẙ"]),
   (0x30B, ["OŐUŰoőuűУӲуӳ"]),
   (0x30C, ["AǍCČDĎEĚGǦHȞIǏKǨLĽNŇOǑRŘSŠTŤUǓZŽaǎcčdďeěgǧhȟiǐjǰkǩlľnňoǒrřsštťuǔzžÜǙüǚƷǮʒǯ"]),
   (0x30F, ["AȀEȄIȈOȌRȐUȔaȁeȅiȉoȍrȑuȕѴѶѵѷ"]), (0x311, ["AȂEȆIȊOȎRȒUȖaȃeȇiȋoȏrȓuȗ"]),
   (0x313, ["ΑἈΕἘΗἨΙἸΟὈΩὨαἀεἐηἠιἰοὀρῤυὐωὠ"]), (0x314, ["ΑἉΕἙΗἩΙἹΟὉΡῬΥὙΩὩαἁεἑηἡιἱοὁρῥυὑωὡ"]),
   (0x31B, ["OƠUƯoơuư"]),
   (0x323, ["AẠBḄDḌEẸHḤIỊKḲLḶMṂNṆOỌRṚSṢTṬUỤVṾWẈYỴZẒaạbḅdḍeẹhḥiịkḳlḷmṃnṇoọrṛsṣtṭuụvṿwẉyỵzẓƠỢơợƯỰưự"]),
   (0x324, ["UṲuṳ"]), (0x325, ["AḀaḁ"]), (0x326, ["SȘTȚsștț"]),
   (0x327, ["CÇDḐEȨGĢHḨKĶLĻNŅRŖSŞTŢcçdḑeȩgģhḩkķlļnņrŗsştţ"]), (0x328, ["AĄEĘIĮOǪUŲaąeęiįoǫuų"]),
   (0x32D, ["DḒEḘLḼNṊTṰUṶdḓeḙlḽnṋtṱuṷ"]), (0x32E, ["HḪhḫ"]), (0x330, ["EḚIḬUṴeḛiḭuṵ"]),
   (0x331, ["BḆDḎKḴLḺNṈRṞTṮZẔbḇdḏhẖkḵlḻnṉrṟtṯzẕ"]),
   (0x338,
    ["<≮=≠>≯←↚→↛↔↮⇒⇏⇔⇎∃∄∈∉∋∌∣∤∥∦∼≁≃≄≅≇≈≉≍≭≡≢≤≰≥≱≲≴≳≵≶≸≷≹≺⊀≻⊁≼⋠≽⋡⊂⊄⊃⊅⊆⊈⊇⊉⊑⋢⊒⋣⊢⊬⊨⊭⊩⊮⊫⊯⊲⋪⊳⋫⊴⋬⊵⋭"]),
   (0x342, ["αᾶηῆιῖυῦωῶϊῗϋῧἀἆἁἇἈἎἉἏἠἦἡἧἨἮἩἯἰἶἱἷἸἾἹἿὐὖὑὗὙὟὠὦὡὧὨὮὩὯ"]),
   (0x345,
    ["ΑᾼΗῌΩῼάᾴήῄαᾳηῃωῳώῴἀᾀἁᾁἂᾂἃᾃἄᾄἅᾅἆᾆἇᾇἈᾈἉᾉἊᾊἋᾋἌᾌἍᾍἎᾎἏᾏἠᾐἡᾑἢᾒἣᾓἤᾔἥᾕἦᾖἧᾗἨᾘἩᾙἪᾚἫᾛἬᾜἭᾝἮᾞἯᾟὠᾠὡᾡὢᾢ",
     "ὣᾣὤᾤὥᾥὦᾦὧᾧὨᾨὩᾩὪᾪὫᾫὬᾬὭᾭὮᾮὯᾯὰᾲὴῂὼῲᾶᾷῆῇῶῷ"]),
   (0x653, ["اآ"]), (0x654, ["اأوؤيئہۂےۓەۀ"]), (0x655, ["اإ"]), (0x93C, ["नऩरऱळऴ"]),
   (0xBD7, ["ஒஔ"]), (0x102E, ["ဥဦ"]), (0x1B35, ["ᬅᬆᬇᬈᬉᬊᬋᬌᬍᬎᬑᬒ"]),
   (0x3099,
    ["うゔかがきぎくぐけげこごさざしじすずせぜそぞただちぢつづてでとどはばひびふぶへべほぼゝゞウヴカガキギクグケゲコゴサザシジスズセゼソゾタダチヂツヅテデトドハバヒビフブヘベホボワヷ",
     "ヰヸヱヹヲヺヽヾ"]),
   (0x309A, ["はぱひぴふぷへぺほぽハパヒピフプヘペホポ"]), (0x110BA, ["𑂙𑂚𑂛𑂜𑂥𑂫"]), (0x113BB, ["𑎄𑎅"]), (0x113C2, ["𑎋𑎎"]),
   (0x113C9, ["𑎂𑎃𑎐𑎑"]), (0x16D67, ["𖵣𖵪𖵨𖵩𖵪"])]

/-- Signs that are made of two signs: the first, the second and what they make. -/
def signRows : List (Nat × Nat × Nat) :=
  [(0xA8, 0x300, 0x1FED), (0x1FBF, 0x300, 0x1FCD), (0x1FFE, 0x300, 0x1FDD), (0xA8, 0x301, 0x385),
   (0x1FBF, 0x301, 0x1FCE), (0x1FFE, 0x301, 0x1FDE), (0x21D0, 0x338, 0x21CD),
   (0xA8, 0x342, 0x1FC1), (0x1FBF, 0x342, 0x1FCF), (0x1FFE, 0x342, 0x1FDF), (0x9C7, 0x9BE, 0x9CB),
   (0x9C7, 0x9D7, 0x9CC), (0xB47, 0xB3E, 0xB4B), (0xB47, 0xB56, 0xB48), (0xB47, 0xB57, 0xB4C),
   (0xBC6, 0xBBE, 0xBCA), (0xBC7, 0xBBE, 0xBCB), (0xBC6, 0xBD7, 0xBCC), (0xC46, 0xC56, 0xC48),
   (0xCC6, 0xCC2, 0xCCA), (0xCBF, 0xCD5, 0xCC0), (0xCC6, 0xCD5, 0xCC7), (0xCCA, 0xCD5, 0xCCB),
   (0xCC6, 0xCD6, 0xCC8), (0xD46, 0xD3E, 0xD4A), (0xD47, 0xD3E, 0xD4B), (0xD46, 0xD57, 0xD4C),
   (0xDD9, 0xDCA, 0xDDA), (0xDDC, 0xDCA, 0xDDD), (0xDD9, 0xDCF, 0xDDC), (0xDD9, 0xDDF, 0xDDE),
   (0x1B3A, 0x1B35, 0x1B3B), (0x1B3C, 0x1B35, 0x1B3D), (0x1B3E, 0x1B35, 0x1B40),
   (0x1B3F, 0x1B35, 0x1B41), (0x1B42, 0x1B35, 0x1B43), (0x11131, 0x11127, 0x1112E),
   (0x11132, 0x11127, 0x1112F), (0x11347, 0x1133E, 0x1134B), (0x11347, 0x11357, 0x1134C),
   (0x113C2, 0x113B8, 0x113C7), (0x113C2, 0x113C2, 0x113C5), (0x113C2, 0x113C9, 0x113C8),
   (0x114B9, 0x114B0, 0x114BC), (0x114B9, 0x114BA, 0x114BB), (0x114B9, 0x114BD, 0x114BE),
   (0x115B8, 0x115AF, 0x115BA), (0x115B9, 0x115AF, 0x115BB), (0x11935, 0x11930, 0x11938),
   (0x1611E, 0x1611E, 0x16121), (0x1611E, 0x1611F, 0x16123), (0x16121, 0x1611F, 0x16126),
   (0x16122, 0x1611F, 0x16127), (0x16129, 0x1611F, 0x16124), (0x1611E, 0x16120, 0x16125),
   (0x16121, 0x16120, 0x16128), (0x1611E, 0x16129, 0x16122)]

/-- The characters of a text two by two. -/
def pairsOf : List Char → List (Nat × Nat)
  | a :: b :: rest => (a.toNat, b.toNat) :: pairsOf rest
  | _ => []

/-- All rows in one form: the first character, the second and what they make. -/
def rows : List (Nat × Nat × Nat) :=
  letterRows.flatMap (fun (mark, lines) =>
    lines.flatMap fun line => (pairsOf line.toList).map fun (base, whole) => (base, mark, whole))
  ++ signRows

/-! ### Syllables of Hangul

A syllable has a leading consonant, a vowel and a trailing consonant or none. -/

/-- The first syllable. -/
def syllableBase : Nat := 0xAC00

/-- The first leading consonant; there are 19. -/
def leadBase : Nat := 0x1100

/-- The first vowel; there are 21. -/
def vowelBase : Nat := 0x1161

/-- The place before the first trailing consonant; with none there are 28 endings. -/
def trailBase : Nat := 0x11A7

/-- How many syllables have the same leading consonant. -/
def syllablesPerLead : Nat := 21 * 28

/-- How many syllables there are. -/
def syllableCount : Nat := 19 * syllablesPerLead

/-- The two parts of a syllable: a syllable without ending and the ending, or two letters. -/
def syllableParts? (code : Nat) : Option (Nat × Nat) :=
  if syllableBase ≤ code && code < syllableBase + syllableCount then
    let index := code - syllableBase
    if index % 28 = 0 then
      some (leadBase + index / syllablesPerLead, vowelBase + index % syllablesPerLead / 28)
    else some (code - index % 28, trailBase + index % 28)
  else none

def syllable? (first second : Nat) : Option Nat :=
  if leadBase ≤ first && first < leadBase + 19
      && vowelBase ≤ second && second < vowelBase + 21 then
    some (syllableBase + (first - leadBase) * syllablesPerLead + (second - vowelBase) * 28)
  else if syllableBase ≤ first && first < syllableBase + syllableCount
      && (first - syllableBase) % 28 = 0
      && trailBase < second && second < trailBase + 28 then
    some (first + (second - trailBase))
  else none

/-- What two characters make together. -/
def compose? (first second : Char) : Option Char :=
  let pair := (first.toNat, second.toNat)
  let stored := (rows.find? fun (a, b, _) => (a, b) = pair).map fun (_, _, whole) => whole
  ((syllable? pair.1 pair.2).or stored).map Char.ofNat

/-- The two characters that one stands for. -/
def parts? (c : Char) : Option (Char × Char) :=
  let stored := (rows.find? fun (_, _, whole) => whole = c.toNat).map fun (a, b, _) => (a, b)
  ((syllableParts? c.toNat).or stored).map fun (a, b) => (Char.ofNat a, Char.ofNat b)

end ArgGuard.Unicode.Composition
