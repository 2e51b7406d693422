import SheetCompiler.Proofs.Table.Variable

/-!
# What constants stand for

A constant of a Variable table stands for its value, but for the infinite ones: they are looked up by
a name among the constants in front of them. So constants stand for something, one after the other,
exactly if each infinite value stands behind a constant called `inf`, of which a negative can be taken
if the value is negative (`AreDefined`).

Main statements:

* `isSome_knownBehind?`: when constants stand for something;
* `knownBehind?_of_exact`: what constants without real numbers stand for.
-/

namespace SheetCompiler

open SheetCompiler.Number SheetCompiler.Script

/-! ## Values -/

/-- The negative of a value, if it has one. -/
def negated? : Json → Option Json
  | .integer i => some (.integer (-i))
  | .truth b => some (.integer (if b then -1 else 0))
  | .real x => some (.real x.neg)
  | _ => none

/-- What a value without its sign stands for among known names. -/
def Bare.value? (known : Pairs Json) : Bare → Option Json
  | .constant v => some v
  | .name n => known.get? n

/-- What a value stands for among known names. -/
def Scalar.value? (known : Pairs Json) (v : Scalar) : Option Json :=
  if v.isNegative then (v.toBare.value? known).bind negated? else v.toBare.value? known

/-- What a literal stands for among known names. -/
def Literal.value? (known : Pairs Json) : Literal → Option Json
  | .scalar v => v.value? known
  | .list values => (values.mapM (Scalar.value? known)).map .list

/-- What is known behind constants: what was known before, and what each of them stands for. -/
def knownBehind? (known : Pairs Json) : List Constant → Option (Pairs Json)
  | [] => some known
  | c :: rest => do
    let v ← c.literal.value? known
    knownBehind? (known ++ [(c.name, v)]) rest

/-! ## Infinite values -/

/-- The name that infinite values are looked up by. -/
def infinityName : String := "inf"

/-- Whether a value is infinite. -/
def Scalar.isInfinite : Scalar → Bool
  | .real (.infinite _) => true
  | _ => false

namespace Constant

/-- Whether there is a negative of what a constant stands for: it is one value and no text. -/
def hasNegative (c : Constant) : Bool := !c.literal.isList && decide (c.type ≠ .string)

/-- The infinite values of a constant are those of one in front of it, of which there is a negative if
they are negative. -/
def IsDefinedBehind (front : List Constant) (c : Constant) : Prop :=
  ∀ v ∈ c.literal.values, v.isInfinite = true →
    ∃ d ∈ front, d.name = infinityName ∧ (v.isNegative = true → d.hasNegative = true)

end Constant

/-- The infinite values of constants are those of constants in front of them. -/
def AreDefined (constants : List Constant) : Prop :=
  ∀ front c back, constants = front ++ c :: back → c.IsDefinedBehind front

variable {known : Pairs Json} {v : Scalar} {c : Constant} {p : Primitive} {j : Json}
  {front constants : List Constant}

variable (known) in
/-- A value that is not infinite stands for something. -/
lemma exists_value?_of_finite (h : v.isInfinite = false) (htype : v.IsOfType p) :
    ∃ j, v.value? known = some j ∧ ((negated? j).isSome = true ↔ p ≠ .string) := by
  cases v with
  | integer i =>
    have hp : p ≠ .string := by rintro rfl; simp [Scalar.IsOfType] at htype
    rw [Scalar.value?]
    split_ifs
    · exact ⟨_, rfl, fun _ => hp, fun _ => rfl⟩
    · exact ⟨_, rfl, fun _ => hp, fun _ => rfl⟩
  | real x =>
    have hp : p ≠ .string := by rintro rfl; simp [Scalar.IsOfType] at htype
    cases x with
    | finite negative mantissa exponent =>
      rw [Scalar.value?]
      split_ifs
      · exact ⟨_, rfl, fun _ => hp, fun _ => rfl⟩
      · exact ⟨_, rfl, fun _ => hp, fun _ => rfl⟩
    | infinite negative => cases h
    | nan => exact absurd rfl htype.2
  | truth b =>
    have hp : p ≠ .string := by rintro rfl; cases htype
    exact ⟨_, rfl, fun _ => hp, fun _ => rfl⟩
  | text s =>
    exact ⟨_, rfl, nofun, fun hp => absurd htype hp⟩

/-- An infinite value stands for the constant of that name, or its negative. -/
lemma value?_of_infinite (h : v.isInfinite = true) : v.value? known =
    if v.isNegative then (known.get? infinityName).bind negated? else known.get? infinityName := by
  cases v with
  | real x =>
    cases x with
    | infinite negative => rfl
    | _ => cases h
  | _ => cases h

/-- What is known by the name of infinite values is the constant of that name among those in front. -/
structure Knows (known : Pairs Json) (front : List Constant) : Prop where
  names : known.names = front.map Constant.name
  negative : ∀ d ∈ front, d.name = infinityName → ∀ j, known.get? infinityName = some j →
    ((negated? j).isSome = true ↔ d.hasNegative = true)

lemma isSome_value?_iff (hknows : Knows known front) (htype : v.IsOfType p) :
    (v.value? known).isSome = true ↔ (v.isInfinite = true →
      ∃ d ∈ front, d.name = infinityName ∧ (v.isNegative = true → d.hasNegative = true)) := by
  cases hv : v.isInfinite with
  | false =>
    obtain ⟨j, hj, -⟩ := exists_value?_of_finite known hv htype
    rw [hj]
    exact ⟨fun _ => nofun, fun _ => rfl⟩
  | true =>
    rw [value?_of_infinite hv]
    cases hj : known.get? infinityName with
    | none =>
      rw [Pairs.get?_eq_none_iff, hknows.names] at hj
      have hnone : ¬∃ d ∈ front, d.name = infinityName ∧
          (v.isNegative = true → d.hasNegative = true) := by
        rintro ⟨d, hd, hname, -⟩
        exact hj (hname ▸ List.mem_map_of_mem hd)
      refine ⟨fun h => ?_, fun h => absurd (h rfl) hnone⟩
      split_ifs at h <;> cases h
    | some j =>
      have hmem : infinityName ∈ front.map Constant.name := by
        rw [← hknows.names]
        exact List.mem_map_of_mem (f := Prod.fst) (Pairs.mem_of_get? hj)
      obtain ⟨d, hd, hname⟩ := List.mem_map.1 hmem
      split_ifs with hneg
      · refine ⟨fun h _ => ⟨d, hd, hname, fun _ => ?_⟩, fun h => ?_⟩
        · exact (hknows.negative d hd hname j hj).1 h
        · obtain ⟨e, he, hename, hnegative⟩ := h rfl
          exact (hknows.negative e he hename j hj).2 (hnegative hneg)
      · exact ⟨fun _ _ => ⟨d, hd, hname, fun h => absurd h hneg⟩, fun _ => rfl⟩

/-! ## Constants one after the other -/

lemma isSome_literal_value?_iff (hknows : Knows known front)
    (htype : ∀ v ∈ c.literal.values, v.IsOfType c.type) :
    (c.literal.value? known).isSome = true ↔ c.IsDefinedBehind front := by
  have hall : (c.literal.value? known).isSome = true ↔
      ∀ v ∈ c.literal.values, (v.value? known).isSome = true := by
    cases c.literal with
    | scalar v => rw [Literal.values, List.forall_mem_singleton, Literal.value?]
    | list values => rw [Literal.values, Literal.value?, Option.isSome_map, mapM_isSome_iff]
  rw [hall]
  exact forall₂_congr fun v hv => isSome_value?_iff hknows (htype v hv)

/-- A constant that is known as well is one of those that are known. -/
lemma Knows.snoc (hknows : Knows known front) (hnew : c.name ∉ front.map Constant.name)
    (htype : ∀ v ∈ c.literal.values, v.IsOfType c.type)
    (hj : c.literal.value? known = some j) : Knows (known ++ [(c.name, j)]) (front ++ [c]) := by
  refine ⟨?_, ?_⟩
  · rw [Pairs.names, List.map_append, List.map_append, ← hknows.names]
    rfl
  intro d hd hname k hk
  have hnames : known.get? c.name = none := by
    rwa [Pairs.get?_eq_none_iff, hknows.names]
  rw [Pairs.get?_append] at hk
  rcases List.mem_append.1 hd with hd | hd
  · -- the new constant has another name
    have hne : c.name ≠ infinityName := by
      rintro heq
      exact hnew (List.mem_map.2 ⟨d, hd, hname.trans heq.symm⟩)
    have hold : known.get? infinityName = some k := by
      rwa [Pairs.get?_cons, if_neg hne, Pairs.get?_nil, Option.or_none] at hk
    exact hknows.negative d hd hname k hold
  · -- it stands for no other one, so it is not infinite itself
    obtain rfl := List.mem_singleton.1 hd
    rw [← hname, hnames, Pairs.get?_cons, if_pos rfl, Option.none_or, Option.some.injEq] at hk
    subst hk
    rw [Constant.hasNegative]
    cases hl : d.literal with
    | list values =>
      rw [hl] at hj
      obtain ⟨js, -, rfl⟩ := Option.map_eq_some_iff.1 hj
      refine iff_of_false ?_ Bool.false_ne_true
      intro h
      cases h
    | scalar v =>
      rw [hl] at hj htype
      have hv := htype v (List.mem_singleton.2 rfl)
      have hfinite : v.isInfinite = false := by
        rw [← Bool.not_eq_true]
        intro hinfinite
        rw [Literal.value?, value?_of_infinite hinfinite, ← hname, hnames, Option.bind_none,
          ite_self] at hj
        cases hj
      obtain ⟨k, hk, hnegative⟩ := exists_value?_of_finite known hfinite hv
      rw [Literal.value?, hk, Option.some.injEq] at hj
      rw [← hj, hnegative, Literal.isList, Bool.not_false, Bool.true_and, decide_eq_true_eq]

/-- Constants stand for something, one after the other, exactly if their infinite values are those of
constants in front of them. -/
theorem isSome_knownBehind? (hnodup : (constants.map Constant.name).Nodup)
    (htype : ∀ c ∈ constants, ∀ v ∈ c.literal.values, v.IsOfType c.type) :
    (knownBehind? [] constants).isSome = true ↔ AreDefined constants := by
  have hall {front constants : List Constant} {known : Pairs Json} (hknows : Knows known front)
      (hnodup : ((front ++ constants).map Constant.name).Nodup)
      (htype : ∀ c ∈ constants, ∀ v ∈ c.literal.values, v.IsOfType c.type) :
      (knownBehind? known constants).isSome = true ↔
        ∀ f c b, constants = f ++ c :: b → c.IsDefinedBehind (front ++ f) := by
    induction constants generalizing front known with
    | nil =>
      refine ⟨fun _ f c b h => ?_, fun _ => rfl⟩
      exact absurd h (by simp)
    | cons c constants ih =>
      have hnew : c.name ∉ front.map Constant.name := by
        rw [List.map_append, List.nodup_append] at hnodup
        exact fun hmem => hnodup.2.2 _ hmem _ (by simp) rfl
      have hc := htype c (by simp)
      -- the first constant comes behind those in front, and the others behind it
      rw [forall_split_cons_iff fun front c => Constant.IsDefinedBehind front c,
        ← isSome_literal_value?_iff hknows hc, knownBehind?]
      cases hj : c.literal.value? known with
      | none => exact ⟨nofun, fun h => by cases h.1⟩
      | some j =>
        have hrest := ih (hknows.snoc hnew hc hj) (by rwa [List.append_assoc])
          fun d hd => htype d (by simp [hd])
        exact hrest.trans ⟨fun h => ⟨rfl, h⟩, fun h => h.2⟩
  have hnone : Knows [] [] := ⟨rfl, nofun⟩
  exact hall hnone hnodup htype

/-! ## Constants without real numbers -/

/-- A value as it is stored. -/
def Scalar.json : Scalar → Json
  | .integer i => .integer i
  | .real x => .real x
  | .truth b => .truth b
  | .text s => .text s

/-- What a literal stands for as it is stored. -/
def Literal.json : Literal → Json
  | .scalar v => v.json
  | .list values => .list (values.map Scalar.json)

/-- Whether a type has no real numbers. -/
def Primitive.isExact : Primitive → Bool
  | .float | .double => false
  | _ => true

/-- A value that is no real number stands for itself. -/
lemma value?_of_exact (hp : p.isExact = true) (htype : v.IsOfType p) :
    v.value? known = some v.json := by
  cases v with
  | integer i =>
    rw [Scalar.value?]
    split_ifs with hneg
    · -- the sign is taken off and put back
      have hi : i < 0 := of_decide_eq_true hneg
      have habs : -(i.natAbs : Int) = i := by omega
      show some (Json.integer (-(i.natAbs : Int))) = some (.integer i)
      rw [habs]
    · have hi : ¬i < 0 := fun h => hneg (decide_eq_true h)
      have habs : (i.natAbs : Int) = i := by omega
      show some (Json.integer (i.natAbs : Int)) = some (.integer i)
      rw [habs]
  | real x =>
    rcases htype.1 with rfl | rfl
    · cases hp
    · cases hp
  | truth b => rfl
  | text s => rfl

variable (known) in
lemma literal_value?_of_exact (hc : c.type.isExact = true)
    (htype : ∀ v ∈ c.literal.values, v.IsOfType c.type) :
    c.literal.value? known = some c.literal.json := by
  cases hl : c.literal with
  | scalar v =>
    rw [hl] at htype
    exact value?_of_exact hc (htype v (List.mem_singleton.2 rfl))
  | list values =>
    rw [hl, Literal.values] at htype
    have hall : values.mapM (Scalar.value? known) = some (values.map Scalar.json) := by
      clear hl
      induction values with
      | nil => rfl
      | cons v values ih =>
        rw [List.mapM_cons, value?_of_exact hc (htype v (by simp)),
          ih fun u hu => htype u (by simp [hu])]
        rfl
    rw [Literal.value?, hall]
    rfl

/-- Constants without real numbers stand for themselves. -/
theorem knownBehind?_of_exact (hexact : ∀ c ∈ constants, c.type.isExact = true)
    (htype : ∀ c ∈ constants, ∀ v ∈ c.literal.values, v.IsOfType c.type) :
    knownBehind? known constants =
      some (known ++ constants.map fun c => (c.name, c.literal.json)) := by
  induction constants generalizing known with
  | nil => simp [knownBehind?]
  | cons c constants ih =>
    have hvalue := literal_value?_of_exact known (hexact c (by simp))
      (htype c (by simp))
    have hrest : knownBehind? (known ++ [(c.name, c.literal.json)]) constants =
        some (known ++ [(c.name, c.literal.json)] ++
          constants.map fun c => (c.name, c.literal.json)) :=
      ih (fun d hd => hexact d (by simp [hd])) fun d hd => htype d (by simp [hd])
    rw [knownBehind?, hvalue]
    refine hrest.trans ?_
    rw [List.append_assoc]
    rfl

end SheetCompiler
