import CallByName.Text.Cluster.Consonant
import CallByName.Text.Cluster.Mark
import CallByName.Text.Cluster.Pictograph
import CallByName.Text.Ranges

/-! What a character does where it meets another: the property Grapheme_Cluster_Break, with the
consonants that can be linked and the pictographs told apart from the rest. -/

namespace CallByName.Text.Cluster

def controlRanges : List (Nat × Nat) :=
  [(0x80, 0x9f), (0xad, 0xad), (0x61c, 0x61c), (0x180e, 0x180e), (0x200b, 0x200b),
  (0x200e, 0x200f), (0x2028, 0x202e), (0x2060, 0x206f), (0xfeff, 0xfeff), (0xfff0, 0xfffb),
  (0x13430, 0x1343f), (0x1bca0, 0x1bca3), (0x1d173, 0x1d17a), (0xe0000, 0xe001f),
  (0xe0080, 0xe00ff), (0xe01f0, 0xe0fff)]

def openingJamo : List (Nat × Nat) := [(0x1100, 0x115f), (0xa960, 0xa97c)]

def vowelJamo : List (Nat × Nat) :=
  [(0x1160, 0x11a7), (0xd7b0, 0xd7c6), (0x16d63, 0x16d63), (0x16d67, 0x16d6a)]

def closingJamo : List (Nat × Nat) := [(0x11a8, 0x11ff), (0xd7cb, 0xd7fb)]

inductive Role where
  | carriageReturn
  | newline
  | control
  | mark
  | joiner
  | spacingMark
  | leadingSign
  | regional
  | openingJamo
  | vowelJamo
  | closingJamo
  | openSyllable
  | closedSyllable
  | consonant
  | pictograph
  | other
deriving DecidableEq, Repr

def Role.standsAlone : Role → Bool
  | .carriageReturn | .newline | .control => true
  | _ => false

def Role.inSyllable : Role → List Role
  | .openingJamo => [.openingJamo, .vowelJamo, .openSyllable, .closedSyllable]
  | .openSyllable | .vowelJamo => [.vowelJamo, .closingJamo]
  | .closedSyllable | .closingJamo => [.closingJamo]
  | _ => []

def asciiRole (c : Char) : Role :=
  if c = '\r' then .carriageReturn
  else if c = '\n' then .newline
  else if c.toNat < 0x20 || c.toNat == 0x7f then .control
  else .other

/-- The 28 syllables of one opening and one vowel begin with the open one. -/
def syllableRole (c : Char) : Role :=
  if (c.toNat - 0xac00) % 28 == 0 then .openSyllable else .closedSyllable

def role (c : Char) : Role :=
  if c.toNat < 0x80 then asciiRole c
  else if c.toNat == 0x200d then .joiner
  else if inRanges [(0xac00, 0xd7a3)] c then syllableRole c
  else if inRanges [(0x1f1e6, 0x1f1ff)] c then .regional
  else if inRanges openingJamo c then .openingJamo
  else if inRanges vowelJamo c then .vowelJamo
  else if inRanges closingJamo c then .closingJamo
  else if inRanges controlRanges c then .control
  else if inRanges extendRanges c then .mark
  else if inRanges spacingRanges c then .spacingMark
  else if inRanges leadingRanges c then .leadingSign
  else if inRanges consonantRanges c then .consonant
  else if inRanges pictographRanges c then .pictograph
  else .other

end CallByName.Text.Cluster
