import ConditionQuery.Unicode.Script

set_option autoImplicit false

/-! # Script extensions

A character may be used in several scripts. Those characters are listed here with the scripts
that they are used in; every other character is used in its own script only.
-/

namespace ConditionQuery.Unicode.Script

/-- The scripts, by the first names they have in `table`, and the characters that are used in
exactly these. -/
def extensions : List (String × String) :=
  [("avst cari copt dupl elba geor glag gong goth grek hani latn lydi mahj perm shaw", "B7"),
    ("beng cyrl deva latn lisu thai toto", "2BC"),
    ("bopo latn", "2C7 2C9-2CB 2D9"),
    ("latn lisu", "2CD"),
    ("latn thai", "2D7"),
    ("cher copt cyrl grek latn perm sunu tale", "300"),
    ("cher cyrl grek latn osge sunu tale todr", "301"),
    ("cher cyrl latn tfng", "302"),
    ("glag latn sunu syrc thai", "303"),
    ("aghb cher copt cyrl goth grek latn osge syrc tfng todr", "304"),
    ("copt elba glag goth kana latn", "305"),
    ("cyrl grek latn perm", "306"),
    ("copt dupl hebr latn perm syrc tale tfng todr", "307"),
    ("armn cyrl dupl goth grek hebr latn perm syrc tale", "308"),
    ("latn tfng", "309"),
    ("dupl latn syrc", "30A"),
    ("cher cyrl latn osge", "30B"),
    ("cher latn tale", "30C"),
    ("latn sunu", "30D 310"),
    ("ethi latn", "30E"),
    ("cyrl latn todr", "311"),
    ("grek latn perm todr", "313"),
    ("latn syrc", "320 325 32E"),
    ("cher dupl kana latn syrc", "323"),
    ("cher dupl latn syrc", "324"),
    ("latn sunu syrc", "32D"),
    ("cher latn syrc", "330"),
    ("aghb cher goth latn sunu thai", "331"),
    ("grek", "342 345 1DC0-1DC1"),
    ("latn osge", "358"),
    ("aghb latn todr", "35E"),
    ("latn", "363-36F"),
    ("copt grek", "374-375"),
    ("cyrl perm", "483"),
    ("cyrl glag", "484 487 2E43 A66F"),
    ("cyrl latn", "485-486"),
    ("armn geor glag", "589"),
    ("arab gara nkoo rohg syrc thaa yezi", "60C 61B"),
    ("arab syrc thaa", "61C"),
    ("adlm arab gara nkoo rohg syrc thaa yezi", "61F"),
    ("adlm arab mand mani ougr phlp rohg sogd syrc", "640"),
    ("arab syrc", "64B-655 670"),
    ("arab thaa yezi", "660-669"),
    ("arab rohg", "6D4"),
    ("beng deva gran gujr guru knda latn mlym orya shrd taml telu tirh", "951"),
    ("beng deva gran gujr guru knda latn mlym orya taml telu tirh", "952"),
    ("beng deva dogr gong gonm gran gujr guru knda mahj mlym nand onao orya sind sinh sylo takr
    taml telu tirh",
      "964"),
    ("beng deva dogr gong gonm gran gujr gukh guru knda limb mahj mlym nand onao orya sind sinh
    sylo takr taml telu tirh",
      "965"),
    ("deva dogr kthi mahj", "966-96F"),
    ("beng cakm sylo", "9E6-9EF"),
    ("guru mult", "A66-A6F"),
    ("gujr khoj", "AE6-AEF"),
    ("gran taml", "BE6-BF3 11301 11303 1133B-1133C 11FD0-11FD1 11FD3"),
    ("knda nand tutg", "CE6-CEF"),
    ("cakm mymr tale", "1040-1049"),
    ("geor glag latn", "10FB"),
    ("runr", "16EB-16ED"),
    ("buhd hano tagb tglg", "1735-1736"),
    ("mong phag", "1802-1803 1805"),
    ("beng deva gran knda", "1CD0 1CD2"),
    ("deva", "1CD1 1CD4 1CDB 1CDE-1CDF 1CE2-1CE8 1CEB-1CEC 1CEE-1CF1"),
    ("deva gran knda", "1CD3"),
    ("beng deva", "1CD5-1CD6 1CD8 1CE1 1CEA 1CED 1CF5-1CF6"),
    ("deva shrd", "1CD7 1CD9 1CDC-1CDD 1CE0"),
    ("deva knda mlym orya taml telu", "1CDA"),
    ("deva nand", "1CE9"),
    ("beng deva gran knda mlym nand orya sinh telu tirh tutg", "1CF2"),
    ("deva gran", "1CF3 1CF8-1CF9"),
    ("deva gran knda tutg", "1CF4"),
    ("beng", "1CF7"),
    ("nand", "1CFA"),
    ("cyrl latn syrc", "1DF8"),
    ("syrc", "1DFA"),
    ("latn mong phag", "202F"),
    ("adlm arab", "204F"),
    ("cari geor glag hung lyci orkh", "205A"),
    ("cari grek hung mero", "205D"),
    ("deva gran latn", "20F0"),
    ("copt latn", "2E17"),
    ("avst orkh", "2E30"),
    ("avst cari geor hung kthi lydi samr", "2E31"),
    ("dupl", "2E3C 1BCA0-1BCA3"),
    ("adlm arab hung", "2E41"),
    ("hani tang", "2FF0-2FFF 31EF"),
    ("bopo hang hani hira kana mong yiii", "3001"),
    ("bopo hang hani hira kana mong phag yiii", "3002"),
    ("bopo hang hani hira kana", "3003 3013 301C-301F 3030 3037 FE45-FE46"),
    ("hani",
      "3006 303E-303F 3190-319F 31C0-31E5 3220-3247 3280-32B0 32C0-32CB 32FF 3358-3370 337B-337F
      33E0-33FE 1D360-1D371 1F250-1F251"),
    ("bopo hang hani hira kana mong tibt yiii", "3008-3009"),
    ("bopo hang hani hira kana lisu mong tibt yiii", "300A-300B"),
    ("bopo hang hani hira kana yiii", "300C-3011 3014-301B 30FB FF61-FF65"),
    ("bopo hani", "302A-302D"),
    ("hira kana", "3031-3035 3099-309C 30A0 30FC FF70 FF9E-FF9F"),
    ("hani hira kana", "303C-303D"),
    ("hani latn", "A700-A707"),
    ("deva dogr gujr guru khoj knda kthi mahj mlym modi nand shrd sind takr tirh tutg",
      "A830-A832"),
    ("deva dogr gujr guru khoj knda kthi mahj modi nand shrd sind takr tirh tutg", "A833-A835"),
    ("deva dogr gujr guru khoj kthi mahj modi sind takr tirh", "A836-A837 A839"),
    ("deva dogr gujr guru khoj kthi mahj modi shrd sind takr tirh", "A838"),
    ("beng deva tutg", "A8F1"),
    ("deva taml", "A8F3"),
    ("kali latn mymr", "A92E"),
    ("bugi java", "A9CF"),
    ("arab nkoo", "FD3E-FD3F"),
    ("arab thaa", "FDF2 FDFD"),
    ("cpmn cprt linb", "10100-10101"),
    ("cprt linb", "10102 10137-1013F"),
    ("cprt lina linb", "10107-10133"),
    ("arab copt", "102E0-102FB"),
    ("mani ougr", "10AF2")]

/-- The characters that are listed with their scripts. -/
def extended : CharSet :=
  extensions.flatMap fun entry => CharSet.read entry.2

/-- The characters that are used in the script with the given name. -/
def extended? (name : String) : Option CharSet :=
  (table.find? fun entry => entry.1.contains name).map fun (names, written) =>
    let listed := extensions.filter fun entry => names.any (CharSet.words entry.1).contains
    ((CharSet.read written).difference extended
      ++ listed.flatMap fun entry => CharSet.read entry.2)

end ConditionQuery.Unicode.Script
