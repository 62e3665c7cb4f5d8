import Paradigm.Unicode.CodeRanges

/-!
# Script extensions

Where the scripts that use a character differ from the script it belongs to.
-/

namespace Paradigm.Unicode

/-- Characters of another script that a script also uses, by its four-letter code. -/
def sharedIntoScript : List NamedRanges := [
  ⟨["adlm"], "61F 640"⟩,
  ⟨["arab"], "60C 61B 61F 640 64B-655 670 FD3E-FD3F 102E0-102FB"⟩,
  ⟨["beng"], "951-952 964-965 1CD0 1CD2 1CD5-1CD6 1CD8-1CEA/9 1CED 1CF2 1CF5-1CF7 A8F1"⟩,
  ⟨["bopo"], "3001-3003 3008-3011 3013-301F 302A-302D 3030 3037 30FB FE45-FE46 FF61-FF65"⟩,
  ⟨["bugi"], "A9CF"⟩,
  ⟨["buhd"], "1735-1736"⟩,
  ⟨["cakm"], "9E6-9EF 1040-1049"⟩,
  ⟨["copt"], "102E0-102FB"⟩,
  ⟨["cpmn"], "10100-10101"⟩,
  ⟨["cprt"], "10100-10102 10107-10133 10137-1013F"⟩,
  ⟨["cyrl"], "485-486 1DF8 2E43"⟩,
  ⟨["deva"], "951-952 964-965 1CD0-1CF6 1CF8-1CF9 20F0 A830-A839"⟩,
  ⟨["dogr"], "964-96F A830-A839"⟩,
  ⟨["dupl"], "1BCA0-1BCA3"⟩,
  ⟨["geor"], "10FB"⟩,
  ⟨["glag"], "484 487 2E43 A66F"⟩,
  ⟨["gong"], "964-965"⟩,
  ⟨["gonm"], "964-965"⟩,
  ⟨["gran"],
    "951-952 964-965 BE6-BF3 1CD0 1CD2-1CD3 1CF2-1CF4 1CF8-1CF9 20F0 1133B 11FD0-11FD1 11FD3"⟩,
  ⟨["grek"], "342 345 1DC0-1DC1"⟩,
  ⟨["gujr"], "951-952 964-965 A830-A839"⟩,
  ⟨["guru"], "951-952 964-965 A830-A839"⟩,
  ⟨["hang"], "3001-3003 3008-3011 3013-301F 3030 3037 30FB FE45-FE46 FF61-FF65"⟩,
  ⟨["hani"],
    "3001-3003 3006 3008-3011 3013-301F 302A-302D 3030 3037 303C-303F 30FB 3190-319F 31C0-31E3
    3220-3247 3280-32B0 32C0-32CB 32FF 3358-3370 337B-337F 33E0-33FE A700-A707 FE45-FE46 FF61-FF65
    1D360-1D371 1F250-1F251"⟩,
  ⟨["hano"], "1735-1736"⟩,
  ⟨["hira"],
    "3001-3003 3008-3011 3013-301F 3030-3035 3037 303C-303D 3099-309C 30A0 30FB-30FC FE45-FE46
    FF61-FF65 FF70 FF9E-FF9F"⟩,
  ⟨["java"], "A9CF"⟩,
  ⟨["kali"], "A92E"⟩,
  ⟨["kana"],
    "3001-3003 3008-3011 3013-301F 3030-3035 3037 303C-303D 3099-309C 30A0 30FB-30FC FE45-FE46
    FF61-FF65 FF70 FF9E-FF9F"⟩,
  ⟨["khoj"], "AE6-AEF A830-A839"⟩,
  ⟨["knda"], "951-952 964-965 1CD0 1CD2 1CDA 1CF2 1CF4 A830-A835"⟩,
  ⟨["kthi"], "966-96F A830-A839"⟩,
  ⟨["latn"], "363-36F 485-486 951-952 10FB 202F 20F0 A700-A707 A92E"⟩,
  ⟨["limb"], "965"⟩,
  ⟨["lina"], "10107-10133"⟩,
  ⟨["linb"], "10100-10102 10107-10133 10137-1013F"⟩,
  ⟨["mahj"], "964-96F A830-A839"⟩,
  ⟨["mand"], "640"⟩,
  ⟨["mani"], "640"⟩,
  ⟨["mlym"], "951-952 964-965 1CDA A830-A832"⟩,
  ⟨["modi"], "A830-A839"⟩,
  ⟨["mong"], "1802-1803 1805 202F"⟩,
  ⟨["mult"], "A66-A6F"⟩,
  ⟨["mymr"], "A92E"⟩,
  ⟨["nand"], "964-965 CE6-CEF 1CE9 1CF2 1CFA A830-A835"⟩,
  ⟨["nkoo"], "60C 61B 61F FD3E-FD3F"⟩,
  ⟨["orya"], "951-952 964-965 1CDA 1CF2"⟩,
  ⟨["ougr"], "640 10AF2"⟩,
  ⟨["perm"], "483"⟩,
  ⟨["phag"], "1802-1803 1805"⟩,
  ⟨["phlp"], "640"⟩,
  ⟨["rohg"], "60C 61B 61F 640 6D4"⟩,
  ⟨["shrd"], "951 1CD7 1CD9 1CDC-1CDD 1CE0"⟩,
  ⟨["sind"], "964-965 A830-A839"⟩,
  ⟨["sinh"], "964-965"⟩,
  ⟨["sogd"], "640"⟩,
  ⟨["sylo"], "964-965 9E6-9EF"⟩,
  ⟨["syrc"], "60C 61B-61C 61F 640 64B-655 670 1DF8 1DFA"⟩,
  ⟨["tagb"], "1735-1736"⟩,
  ⟨["takr"], "964-965 A830-A839"⟩,
  ⟨["tale"], "1040-1049"⟩,
  ⟨["taml"], "951-952 964-965 1CDA A8F3 11301 11303 1133B-1133C"⟩,
  ⟨["telu"], "951-952 964-965 1CDA 1CF2"⟩,
  ⟨["tglg"], "1735-1736"⟩,
  ⟨["thaa"], "60C 61B-61C 61F 660-669 FDF2 FDFD"⟩,
  ⟨["tirh"], "951-952 964-965 1CF2 A830-A839"⟩,
  ⟨["yezi"], "60C 61B 61F 660-669"⟩,
  ⟨["yiii"], "3001-3002 3008-3011 3014-301B 30FB FF61-FF65"⟩]

/-- Characters of a script whose extensions do not name it, by its four-letter code. -/
def sharedOutOfScript : List NamedRanges := [
  ⟨["zinh"],
    "342 345 363-36F 485-486 64B-655 670 951-952 1CD0-1CD2 1CD4-1CE0 1CE2-1CE8 1CED 1CF4 1CF8-1CF9
    1DC0-1DC1 1DF8 1DFA 20F0 302A-302D 3099-309A 102E0 1133B"⟩,
  ⟨["zyyy"],
    "60C 61B 61F 640 964-965 10FB 1735-1736 1802-1803 1805 1CD3 1CE1 1CE9-1CEC 1CEE-1CF3 1CF5-1CF7
    1CFA 202F 2E43 3001-3003 3006 3008-3011 3013-301F 3030-3035 3037 303C-303F 309B-309C 30A0
    30FB-30FC 3190-319F 31C0-31E3 3220-3247 3280-32B0 32C0-32CB 32FF 3358-3370 337B-337F 33E0-33FE
    A700-A707 A830-A839 A92E A9CF FD3E-FD3F FE45-FE46 FF61-FF65 FF70 FF9E-FF9F 10100-10102
    10107-10133 10137-1013F 102E1-102FB 1BCA0-1BCA3 1D360-1D371 1F250-1F251"⟩]

end Paradigm.Unicode
