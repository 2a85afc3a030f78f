import WhipWhep.Text.CodePoints
import WhipWhep.Text.CombiningClass
import WhipWhep.Text.Mark
import WhipWhep.Url.Domain.Mapping

/-!
Where a joiner may stand in a label: after the sign that takes the vowel off a consonant and, if it
keeps letters apart, between two that would otherwise join.
-/

namespace WhipWhep.Url.Domain

/-- With which of its neighbours a letter joins. -/
inductive Joining where
  | neither
  /-- With the letter before it. -/
  | backward
  /-- With the letter after it. -/
  | forward
  | both
  deriving DecidableEq

/-- The letters that join, after Unicode 17. A row holds up to the next one. -/
def joinings : Array (Nat × Joining) := #[
  (0x620, .both), (0x621, .neither), (0x622, .backward), (0x626, .both), (0x627, .backward),
  (0x628, .both), (0x629, .backward), (0x62a, .both), (0x62f, .backward), (0x633, .both),
  (0x640, .neither), (0x641, .both), (0x648, .backward), (0x649, .both), (0x660, .neither),
  (0x66e, .both), (0x671, .backward), (0x674, .neither), (0x679, .both), (0x688, .backward),
  (0x69a, .both), (0x6c0, .backward), (0x6c1, .both), (0x6c3, .backward), (0x6cc, .both),
  (0x6cd, .backward), (0x6ce, .both), (0x6cf, .backward), (0x6d0, .both), (0x6d2, .backward),
  (0x6d4, .neither), (0x6d5, .backward), (0x6de, .neither), (0x6ee, .backward), (0x6f0, .neither),
  (0x6fa, .both), (0x6fd, .neither), (0x6ff, .both), (0x700, .neither), (0x710, .backward),
  (0x712, .both), (0x715, .backward), (0x71a, .both), (0x71e, .backward), (0x71f, .both),
  (0x728, .backward), (0x729, .both), (0x72a, .backward), (0x72b, .both), (0x72c, .backward),
  (0x72d, .both), (0x72f, .backward), (0x74e, .both), (0x759, .backward), (0x75c, .both),
  (0x76b, .backward), (0x76d, .both), (0x771, .backward), (0x772, .both), (0x773, .backward),
  (0x775, .both), (0x778, .backward), (0x77a, .both), (0x780, .neither), (0x7ca, .both),
  (0x7f4, .neither), (0x840, .backward), (0x841, .both), (0x846, .backward), (0x848, .both),
  (0x849, .backward), (0x84a, .both), (0x854, .backward), (0x855, .both), (0x856, .backward),
  (0x85e, .neither), (0x860, .both), (0x861, .neither), (0x862, .both), (0x866, .neither),
  (0x867, .backward), (0x868, .both), (0x869, .backward), (0x883, .neither), (0x886, .both),
  (0x887, .neither), (0x889, .both), (0x88e, .backward), (0x88f, .both), (0x8aa, .backward),
  (0x8ad, .neither), (0x8ae, .backward), (0x8af, .both), (0x8b1, .backward), (0x8b3, .both),
  (0x8b9, .backward), (0x8ba, .both), (0x8c9, .neither), (0x1807, .both), (0x1808, .neither),
  (0x1820, .both), (0x1880, .neither), (0x1887, .both), (0x18b0, .neither), (0xa840, .both),
  (0xa872, .forward), (0xa873, .neither), (0x10ac0, .both), (0x10ac5, .backward),
  (0x10ac6, .neither), (0x10ac7, .backward), (0x10ac8, .neither), (0x10ac9, .backward),
  (0x10acb, .neither), (0x10acd, .forward), (0x10ace, .backward), (0x10ad3, .both),
  (0x10ad7, .forward), (0x10ad8, .both), (0x10add, .backward), (0x10ade, .both),
  (0x10ae1, .backward), (0x10ae2, .neither), (0x10ae4, .backward), (0x10aeb, .both),
  (0x10aef, .backward), (0x10af0, .neither), (0x10b80, .both), (0x10b81, .backward),
  (0x10b82, .both), (0x10b83, .backward), (0x10b86, .both), (0x10b89, .backward), (0x10b8a, .both),
  (0x10b8c, .backward), (0x10b8d, .both), (0x10b8e, .backward), (0x10b90, .both),
  (0x10b91, .backward), (0x10b99, .neither), (0x10ba9, .backward), (0x10bad, .both),
  (0x10baf, .neither), (0x10d00, .forward), (0x10d01, .both), (0x10d22, .backward),
  (0x10d23, .both), (0x10d30, .neither), (0x10ec2, .backward), (0x10ec3, .both),
  (0x10ec5, .neither), (0x10ec6, .both), (0x10ed0, .neither), (0x10f30, .both),
  (0x10f33, .backward), (0x10f34, .both), (0x10f45, .neither), (0x10f51, .both),
  (0x10f54, .backward), (0x10f55, .neither), (0x10f70, .both), (0x10f74, .backward),
  (0x10f76, .both), (0x10f86, .neither), (0x10fb0, .both), (0x10fb1, .neither), (0x10fb2, .both),
  (0x10fb4, .backward), (0x10fb7, .neither), (0x10fb8, .both), (0x10fb9, .backward),
  (0x10fbb, .both), (0x10fbd, .backward), (0x10fbe, .both), (0x10fc0, .neither), (0x10fc1, .both),
  (0x10fc2, .backward), (0x10fc4, .both), (0x10fc5, .neither), (0x10fc9, .backward),
  (0x10fca, .both), (0x10fcb, .forward), (0x10fe0, .neither), (0x1e922, .both), (0x1e950, .neither)]

def joining (c : Char) : Joining :=
  ((Text.lastRow? joinings c.toNat).map (·.2)).getD .neither

/-- Marks let letters join across them. -/
def isTransparent (c : Char) : Bool := Text.isNonspacing c || c.toNat == 0x1E94B

def reaches (side : Joining) (text : List Char) : Bool :=
  (text.dropWhile isTransparent).head?.any fun c => [side, .both].contains (joining c)

/-- Whether a joiner may stand between two texts, of which the first is given backwards. -/
def admitsJoiner (before : List Char) (joiner : Char) (after : List Char) : Bool :=
  match before with
  | [] => false
  | last :: _ =>
    Text.combiningClass last == Text.virama ||
      (isNonjoiner joiner && reaches .forward before && reaches .backward after)

def joinersFitAfter : List Char → List Char → Bool
  | _, [] => true
  | before, c :: rest =>
    (!isJoiner c || admitsJoiner before c rest) && joinersFitAfter (c :: before) rest

def joinersFit (label : List Char) : Bool := joinersFitAfter [] label

end WhipWhep.Url.Domain
