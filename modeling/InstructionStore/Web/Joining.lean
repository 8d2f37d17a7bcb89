import InstructionStore.Unicode.Ranges

/-!
# Joiners and marks

Two characters without a form of their own join the letters beside them or keep
them apart. A name may hold one only where it makes a difference: behind a
**virama**, the sign that takes the vowel from a letter, and the non-joiner also
between letters that would be connected without it.

A part of a name cannot begin with a mark, which has no letter to stand on.
-/

namespace InstructionStore.Web.Joining

open InstructionStore.Unicode

/-- Marks, which stand on the letter before them. -/
def marks : RangeTable := .ofLines [
    "300-36f 483-489 591-5bd 5bf 5c1-5c2 5c4-5c5 5c7 610-61a 64b-65f 670 6d6-6dc 6df-6e4 6e7-6e8",
    "6ea-6ed 711 730-74a 7a6-7b0 7eb-7f3 7fd 816-819 81b-823 825-827 829-82d 859-85b 898-89f",
    "8ca-903 93a-93c 93e-94f 951-957 962-963 981-983 9bc 9be-9cd 9d7 9e2-9e3 9fe-a03 a3c-a51",
    "a70-a71 a75 a81-a83 abc abe-acd ae2-ae3 afa-b03 b3c b3e-b57 b62-b63 b82 bbe-bcd bd7 c00-c04",
    "c3c c3e-c56 c62-c63 c81-c83 cbc cbe-cd6 ce2-ce3 cf3-d03 d3b-d3c d3e-d4d d57 d62-d63 d81-d83",
    "dca-ddf df2-df3 e31 e34-e3a e47-e4e eb1 eb4-ebc ec8-ece f18-f19 f35 f37 f39 f3e-f3f f71-f84",
    "f86-f87 f8d-fbc fc6 102b-103e 1056-1059 105e-1060 1062-1064 1067-106d 1071-1074 1082-108d",
    "108f 109a-109d 135d-135f 1712-1715 1732-1734 1752-1753 1772-1773 17b6-17d3 17dd 1885-1886",
    "18a9 1920-193b 1a17-1a1b 1a55-1a7f 1ab0-1b04 1b34-1b44 1b6b-1b73 1b80-1b82 1ba1-1bad",
    "1be6-1bf3 1c24-1c37 1cd0-1cd2 1cd4-1ce8 1ced 1cf4 1cf7-1cf9 1dc0-1dff 20d0-20f0 2cef-2cf1",
    "2d7f 2de0-2dff 302a-302f 3099-309a a66f-a672 a674-a67d a69e-a69f a6f0-a6f1 a802 a806 a80b",
    "a823-a827 a82c a880-a881 a8b4-a8c5 a8e0-a8f1 a8ff a926-a92d a947-a953 a980-a983 a9b3-a9c0",
    "a9e5 aa29-aa36 aa43 aa4c-aa4d aa7b-aa7d aab0 aab2-aab4 aab7-aab8 aabe-aabf aac1 aaeb-aaef",
    "aaf5-aaf6 abe3-abea abec-abed fb1e fe20-fe2f 101fd 102e0 10376-1037a 10a01-10a0f 10a38-10a3f",
    "10ae5-10ae6 10d24-10d27 10eab-10eac 10efd-10eff 10f46-10f50 10f82-10f85 11000-11002",
    "11038-11046 11070 11073-11074 1107f-11082 110b0-110ba 110c2 11100-11102 11127-11134",
    "11145-11146 11173 11180-11182 111b3-111c0 111c9-111cc 111ce-111cf 1122c-11237 1123e 11241",
    "112df-112ea 11300-11303 1133b-1133c 1133e-1134d 11357 11362-11374 11435-11446 1145e",
    "114b0-114c3 115af-115c0 115dc-115dd 11630-11640 116ab-116b7 1171d-1172b 1182c-1183a",
    "11930-1193e 11940 11942-11943 119d1-119e0 119e4 11a01-11a0a 11a33-11a39 11a3b-11a3e 11a47",
    "11a51-11a5b 11a8a-11a99 11c2f-11c3f 11c92-11cb6 11d31-11d45 11d47 11d8a-11d97 11ef3-11ef6",
    "11f00-11f01 11f03 11f34-11f42 13440 13447-13455 16af0-16af4 16b30-16b36 16f4f 16f51-16f92",
    "16fe4-16ff1 1bc9d-1bc9e 1cf00-1cf46 1d165-1d169 1d16d-1d182 1d185-1d18b 1d1aa-1d1ad",
    "1d242-1d244 1da00-1da36 1da3b-1da6c 1da75 1da84 1da9b-1daaf 1e000-1e08f 1e130-1e136 1e2ae",
    "1e2ec-1e2ef 1e4ec-1e4ef 1e8d0-1e8d6 1e944-1e94a"]

/-- The signs that take the vowel from a letter. -/
def viramas : RangeTable := .ofLines [
    "94d 9cd a4d acd b4d bcd c4d ccd d3b d3c d4d dca e3a eba f84 1039 103a 1714 1715 1734 17d2",
    "1a60 1b44 1baa 1bab 1bf2 1bf3 2d7f a806 a82c a8c4 a953 a9c0 aaf6 abed 10a3f 11046 11070",
    "1107f 110b9 11133 11134 111c0 11235 112ea 1134d 11442 114c2 115bf 1163f 116b6 1172b 11839",
    "1193d 1193e 119e0 11a34 11a47 11a99 11c3f 11d44 11d45 11d97 11f41 11f42"]

/-- How characters are connected with their neighbours: 1 for those that letters
are connected across, 2 for letters connected on both sides, 3 and 4 for those connected with the
next or with the previous letter only. -/
def forms : RangeTable := .ofLines [
    "300-36f:1 483-489:1 591-5bd:1 5bf:1 5c1-5c2:1 5c4-5c5:1 5c7:1 610-61a:1 620:2 622-625:4",
    "626:2 627:4 628:2 629:4 62a-62e:2 62f-632:4 633-63f:2 641-647:2 648:4 649-64a:2 64b-65f:1",
    "66e-66f:2 670:1 671-673:4 679-687:2 688-699:4 69a-6bf:2 6c0:4 6c1-6c2:2 6c3-6cb:4 6cc:2",
    "6cd:4 6ce:2 6cf:4 6d0-6d1:2 6d2-6d3:4 6d5:4 6d6-6dc:1 6df-6e4:1 6e7-6e8:1 6ea-6ed:1",
    "6ee-6ef:4 6fa-6fc:2 6ff:2 710:4 711:1 712-714:2 715-719:4 71a-71d:2 71e:4 71f-727:2 728:4",
    "729:2 72a:4 72b:2 72c:4 72d-72e:2 72f:4 730-74a:1 74d:4 74e-758:2 759-75b:4 75c-76a:2",
    "76b-76c:4 76d-770:2 771:4 772:2 773-774:4 775-777:2 778-779:4 77a-77f:2 7a6-7b0:1 7ca-7ea:2",
    "7eb-7f3:1 7fd:1 816-819:1 81b-823:1 825-827:1 829-82d:1 840:4 841-845:2 846-847:4 848:2",
    "849:4 84a-853:2 854:4 855:2 856-858:4 859-85b:1 860:2 862-865:2 867:4 868:2 869-882:4 886:2",
    "889-88d:2 88e:4 898-89f:1 8a0-8a9:2 8aa-8ac:4 8ae:4 8af-8b0:2 8b1-8b2:4 8b3-8b8:2 8b9:4",
    "8ba-8c8:2 8ca-902:1 93a:1 93c:1 941-948:1 94d:1 951-957:1 962-963:1 981:1 9bc:1 9c1-9c4:1",
    "9cd:1 9e2-9e3:1 9fe-a02:1 a3c:1 a41-a51:1 a70-a71:1 a75:1 a81-a82:1 abc:1 ac1-ac8:1 acd:1",
    "ae2-ae3:1 afa-b01:1 b3c:1 b3f:1 b41-b44:1 b4d-b56:1 b62-b63:1 b82:1 bc0:1 bcd:1 c00:1 c04:1",
    "c3c:1 c3e-c40:1 c46-c56:1 c62-c63:1 c81:1 cbc:1 cbf:1 cc6:1 ccc-ccd:1 ce2-ce3:1 d00-d01:1",
    "d3b-d3c:1 d41-d44:1 d4d:1 d62-d63:1 d81:1 dca:1 dd2-dd6:1 e31:1 e34-e3a:1 e47-e4e:1 eb1:1",
    "eb4-ebc:1 ec8-ece:1 f18-f19:1 f35:1 f37:1 f39:1 f71-f7e:1 f80-f84:1 f86-f87:1 f8d-fbc:1",
    "fc6:1 102d-1030:1 1032-1037:1 1039-103a:1 103d-103e:1 1058-1059:1 105e-1060:1 1071-1074:1",
    "1082:1 1085-1086:1 108d:1 109d:1 135d-135f:1 1712-1714:1 1732-1733:1 1752-1753:1 1772-1773:1",
    "17b7-17bd:1 17c6:1 17c9-17d3:1 17dd:1 1807:2 1820-1878:2 1885-1886:1 1887-18a8:2 18a9:1",
    "18aa:2 1920-1922:1 1927-1928:1 1932:1 1939-193b:1 1a17-1a18:1 1a1b:1 1a56:1 1a58-1a60:1",
    "1a62:1 1a65-1a6c:1 1a73-1a7f:1 1ab0-1b03:1 1b34:1 1b36-1b3a:1 1b3c:1 1b42:1 1b6b-1b73:1",
    "1b80-1b81:1 1ba2-1ba5:1 1ba8-1ba9:1 1bab-1bad:1 1be6:1 1be8-1be9:1 1bed:1 1bef-1bf1:1",
    "1c2c-1c33:1 1c36-1c37:1 1cd0-1cd2:1 1cd4-1ce0:1 1ce2-1ce8:1 1ced:1 1cf4:1 1cf8-1cf9:1",
    "1dc0-1dff:1 20d0-20f0:1 2cef-2cf1:1 2d7f:1 2de0-2dff:1 302a-302d:1 3099-309a:1 a66f-a672:1",
    "a674-a67d:1 a69e-a69f:1 a6f0-a6f1:1 a802:1 a806:1 a80b:1 a825-a826:1 a82c:1 a840-a871:2",
    "a872:3 a8c4-a8c5:1 a8e0-a8f1:1 a8ff:1 a926-a92d:1 a947-a951:1 a980-a982:1 a9b3:1 a9b6-a9b9:1",
    "a9bc-a9bd:1 a9e5:1 aa29-aa2e:1 aa31-aa32:1 aa35-aa36:1 aa43:1 aa4c:1 aa7c:1 aab0:1",
    "aab2-aab4:1 aab7-aab8:1 aabe-aabf:1 aac1:1 aaec-aaed:1 aaf6:1 abe5:1 abe8:1 abed:1 fb1e:1",
    "fe20-fe2f:1 101fd:1 102e0:1 10376-1037a:1 10a01-10a0f:1 10a38-10a3f:1 10ac0-10ac4:2 10ac5:4",
    "10ac7:4 10ac9-10aca:4 10acd:3 10ace-10ad2:4 10ad3-10ad6:2 10ad7:3 10ad8-10adc:2 10add:4",
    "10ade-10ae0:2 10ae1:4 10ae4:4 10ae5-10ae6:1 10aeb-10aee:2 10aef:4 10b80:2 10b81:4 10b82:2",
    "10b83-10b85:4 10b86-10b88:2 10b89:4 10b8a-10b8b:2 10b8c:4 10b8d:2 10b8e-10b8f:4 10b90:2",
    "10b91:4 10ba9-10bac:4 10bad-10bae:2 10d00:3 10d01-10d21:2 10d22:4 10d23:2 10d24-10d27:1",
    "10eab-10eac:1 10efd-10eff:1 10f30-10f32:2 10f33:4 10f34-10f44:2 10f46-10f50:1 10f51-10f53:2",
    "10f54:4 10f70-10f73:2 10f74-10f75:4 10f76-10f81:2 10f82-10f85:1 10fb0:2 10fb2-10fb3:2",
    "10fb4-10fb6:4 10fb8:2 10fb9-10fba:4 10fbb-10fbc:2 10fbd:4 10fbe-10fbf:2 10fc1:2",
    "10fc2-10fc3:4 10fc4:2 10fc9:4 10fca:2 10fcb:3 11001:1 11038-11046:1 11070:1 11073-11074:1",
    "1107f-11081:1 110b3-110b6:1 110b9-110ba:1 110c2:1 11100-11102:1 11127-1112b:1 1112d-11134:1",
    "11173:1 11180-11181:1 111b6-111be:1 111c9-111cc:1 111cf:1 1122f-11231:1 11234:1",
    "11236-11237:1 1123e:1 11241:1 112df:1 112e3-112ea:1 11300-11301:1 1133b-1133c:1 11340:1",
    "11366-11374:1 11438-1143f:1 11442-11444:1 11446:1 1145e:1 114b3-114b8:1 114ba:1",
    "114bf-114c0:1 114c2-114c3:1 115b2-115b5:1 115bc-115bd:1 115bf-115c0:1 115dc-115dd:1",
    "11633-1163a:1 1163d:1 1163f-11640:1 116ab:1 116ad:1 116b0-116b5:1 116b7:1 1171d-1171f:1",
    "11722-11725:1 11727-1172b:1 1182f-11837:1 11839-1183a:1 1193b-1193c:1 1193e:1 11943:1",
    "119d4-119db:1 119e0:1 11a01-11a0a:1 11a33-11a38:1 11a3b-11a3e:1 11a47:1 11a51-11a56:1",
    "11a59-11a5b:1 11a8a-11a96:1 11a98-11a99:1 11c30-11c3d:1 11c3f:1 11c92-11ca7:1 11caa-11cb0:1",
    "11cb2-11cb3:1 11cb5-11cb6:1 11d31-11d45:1 11d47:1 11d90-11d91:1 11d95:1 11d97:1",
    "11ef3-11ef4:1 11f00-11f01:1 11f36-11f3a:1 11f40:1 11f42:1 13440:1 13447-13455:1",
    "16af0-16af4:1 16b30-16b36:1 16f4f:1 16f8f-16f92:1 16fe4:1 1bc9d-1bc9e:1 1cf00-1cf46:1",
    "1d167-1d169:1 1d17b-1d182:1 1d185-1d18b:1 1d1aa-1d1ad:1 1d242-1d244:1 1da00-1da36:1",
    "1da3b-1da6c:1 1da75:1 1da84:1 1da9b-1daaf:1 1e000-1e08f:1 1e130-1e136:1 1e2ae:1",
    "1e2ec-1e2ef:1 1e4ec-1e4ef:1 1e8d0-1e8d6:1 1e922-1e943:2 1e944-1e94b:1"]

/-- The character that keeps letters apart. -/
def nonJoiner : Char := '\u200c'

/-- The character that joins letters. -/
def joiner : Char := '\u200d'

/-- How a character is connected with its neighbours. -/
def formOf (c : Char) : Nat := (forms.value? c).getD 0

/-- Whether the first character that is not passed over has one of two forms. -/
def reaches (form other : Nat) (text : List Char) : Bool :=
  ((text.dropWhile fun c => formOf c = 1).head?.map formOf).any fun f => f = form || f = other

/-- Whether a character may stand between what comes before it, given last
first, and what comes after it. -/
def mayStand (before : List Char) (c : Char) (after : List Char) : Bool :=
  if c = joiner || c = nonJoiner then
    (before.head?.any viramas.contains) ||
      (c = nonJoiner && reaches 3 2 before && reaches 4 2 after)
  else true

/-- Whether every joiner may stand where it does. -/
def areJoinersFit (before : List Char) : List Char → Bool
  | [] => true
  | c :: after => mayStand before c after && areJoinersFit (c :: before) after

/-- **The rule for a part of a name**: no mark at its beginning, and joiners only
where they make a difference. -/
def isRegular (label : List Char) : Bool :=
  !(label.head?.any marks.contains) && areJoinersFit [] label

end InstructionStore.Web.Joining
