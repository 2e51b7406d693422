import SheetCompiler.Json.Basic

/-!
# The order of keys

The values that may be keys of a map stand in an order: nothing, then numbers by what they stand
for, with truth values among them, then texts. `rank` is the place of a value in it; values of one
rank are one key. Main statements: `Rank.lt_trans`, `Rank.lt_or_eq_or_lt` and `rank_text_lt_iff`
(texts keep the order of their code points).
-/

namespace SheetCompiler.Json

open SheetCompiler.Number SheetCompiler.Text

/-- A place in the order of keys. The kind tells nothing, numbers and texts apart; the side tells
finite numbers from what is beyond them; a finite number is scaled to an integer. A text is given by
the numbers of its code points. -/
structure Rank where
  kind : Nat
  side : Int
  scaled : Int
  codes : List Nat
deriving DecidableEq

namespace Rank

/-- Places compare by kind, then by side, then by number, then by text. -/
def Precedes (a b : Rank) : Prop :=
  a.kind < b.kind ∨ a.kind = b.kind ∧ (a.side < b.side ∨ a.side = b.side ∧
    (a.scaled < b.scaled ∨ a.scaled = b.scaled ∧ a.codes < b.codes))

instance : LT Rank := ⟨Precedes⟩

instance (a b : Rank) : Decidable (a < b) := by
  change Decidable (Precedes a b)
  unfold Precedes
  infer_instance

theorem lt_def {a b : Rank} : a < b ↔ Precedes a b := Iff.rfl

theorem lt_irrefl (a : Rank) : ¬ a < a := by
  rintro (h | ⟨-, h | ⟨-, h | ⟨-, h⟩⟩⟩)
  · exact Nat.lt_irrefl _ h
  · exact Int.lt_irrefl _ h
  · exact Int.lt_irrefl _ h
  · exact List.lt_irrefl _ h

theorem lt_trans {a b c : Rank} (h : a < b) (h' : b < c) : a < c := by
  rcases h with h | ⟨hk, h | ⟨hs, h | ⟨hn, h⟩⟩⟩ <;>
    rcases h' with h' | ⟨hk', h' | ⟨hs', h' | ⟨hn', h'⟩⟩⟩ <;>
      first
      | exact .inl (by omega)
      | exact .inr ⟨by omega, .inl (by omega)⟩
      | exact .inr ⟨by omega, .inr ⟨by omega, .inl (by omega)⟩⟩
      | exact .inr ⟨by omega, .inr ⟨by omega, .inr ⟨by omega, List.lt_trans h h'⟩⟩⟩

theorem lt_or_eq_or_lt (a b : Rank) : a < b ∨ a = b ∨ b < a := by
  obtain ⟨k, s, n, t⟩ := a
  obtain ⟨k', s', n', t'⟩ := b
  rcases Nat.lt_trichotomy k k' with hk | rfl | hk
  · exact .inl (.inl hk)
  · rcases Int.lt_trichotomy s s' with hs | rfl | hs
    · exact .inl (.inr ⟨rfl, .inl hs⟩)
    · rcases Int.lt_trichotomy n n' with hn | rfl | hn
      · exact .inl (.inr ⟨rfl, .inr ⟨rfl, .inl hn⟩⟩)
      · rcases Std.lt_trichotomy t t' with ht | rfl | ht
        · exact .inl (.inr ⟨rfl, .inr ⟨rfl, .inr ⟨rfl, ht⟩⟩⟩)
        · exact .inr (.inl rfl)
        · exact .inr (.inr (.inr ⟨rfl, .inr ⟨rfl, .inr ⟨rfl, ht⟩⟩⟩))
      · exact .inr (.inr (.inr ⟨rfl, .inr ⟨rfl, .inl hn⟩⟩))
    · exact .inr (.inr (.inr ⟨rfl, .inl hs⟩))
  · exact .inr (.inr (.inl hk))

end Rank

/-- What makes every finite binary number an integer. -/
def rankScale : Nat := Nat.pow 2 1074

/-- The place of an integer. -/
def integerRank (i : Int) : Rank := ⟨1, 0, i * rankScale, []⟩

/-- The place of a binary number; no number comes behind all numbers. -/
def realRank : Binary64 → Rank
  | .finite negative mantissa exponent =>
    let scaled : Int := mantissa * Nat.pow 2 (exponent + 1074).toNat
    ⟨1, 0, if negative then -scaled else scaled, []⟩
  | .infinite negative => ⟨1, if negative then -1 else 1, 0, []⟩
  | .nan => ⟨1, 2, 0, []⟩

/-- The place of a value in the order of keys; what is no key comes last. -/
def rank : Json → Rank
  | .null => ⟨0, 0, 0, []⟩
  | .truth b => integerRank (if b then 1 else 0)
  | .integer i => integerRank i
  | .real x => realRank x
  | .text s => ⟨2, 0, 0, s.toList.map Char.toNat⟩
  | .broken b => ⟨2, 0, 0, b.points.map Point.code⟩
  | .list _ | .object _ | .brokenObject _ => ⟨3, 0, 0, []⟩

/-- Whether keys can be brought into order: they are of one kind. -/
def areOrdered (keys : List Json) : Bool :=
  keys.all fun key => decide (key.rank.kind = ((keys.head?.map rank).map Rank.kind).getD 0)

theorem map_toNat_inj {cs ds : List Char} : cs.map Char.toNat = ds.map Char.toNat ↔ cs = ds :=
  List.map_inj_right fun _ _ h => Char.toNat_inj.1 h

theorem rank_text_inj {s t : String} : (text s).rank = (text t).rank ↔ s = t := by
  simp [rank, map_toNat_inj, String.toList_inj]

/-- The numbers of code points keep the order of texts. -/
theorem map_toNat_lt_iff {s t : String} :
    s.toList.map Char.toNat < t.toList.map Char.toNat ↔ s < t := by
  have hmono {u v : String} (h : u < v) : u.toList.map Char.toNat < v.toList.map Char.toNat :=
    List.map_lt (fun _ _ hc => hc) (String.lt_iff.1 h)
  refine ⟨fun h => ?_, hmono⟩
  rcases Std.lt_trichotomy s t with hlt | rfl | hgt
  · exact hlt
  · exact absurd h (List.lt_irrefl _)
  · exact absurd (List.lt_trans h (hmono hgt)) (List.lt_irrefl _)

theorem rank_text_lt_iff {s t : String} : (text s).rank < (text t).rank ↔ s < t := by
  simp [rank, Rank.lt_def, Rank.Precedes, map_toNat_lt_iff]

/-- The place of a text is that of its code points. -/
theorem rank_of_points? {value : Json} {points : List Point} (h : value.points? = some points) :
    value.rank = ⟨2, 0, 0, points.map Point.code⟩ := by
  cases value with
  | text s =>
    cases h
    rw [rank, List.map_map]
    rfl
  | broken b =>
    cases h
    rfl
  | _ => cases h

theorem areOrdered_of_kind {keys : List Json} {k : Nat}
    (h : ∀ key ∈ keys, key.rank.kind = k) : areOrdered keys = true := by
  cases keys with
  | nil => rfl
  | cons first keys =>
    refine List.all_eq_true.2 fun key hkey => decide_eq_true ?_
    rw [h key hkey, List.head?_cons, Option.map_some, Option.map_some, Option.getD_some,
      h first List.mem_cons_self]

end SheetCompiler.Json
