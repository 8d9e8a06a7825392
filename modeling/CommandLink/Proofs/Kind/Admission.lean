import CommandLink.Kind.Conversion
import Mathlib.Data.List.Forall2

/-!
# Values of a kind

What it takes for a value to be of a kind, apart from how texts are converted. Whatever a conversion
gives without converters of its own is of the kind (`admits_of_convert`), and a value that is of the
kind already fits it as it is (`Admits.fit?_eq`).
-/

namespace CommandLink.Kind

/-- A value is of a kind. -/
inductive Admits : Kind → Value → Prop where
  | string (text : Text) : Admits .string (.string text)
  | int {n : Int} (low : -0x8000000000000000 ≤ n) (high : n < 0x8000000000000000) :
      Admits .int (.number (.integer n))
  | float (d : Double) : Admits .float (.number (.float d))
  | bool (b : Bool) : Admits .bool (.bool b)
  | json (value : Value) : Admits .json value
  | enumeration {name : Text} {variants : List Text} {variant : Text}
      (declared : variant ∈ variants) : Admits (.enumeration name variants) (.string variant)
  | list {element : Kind} {items : List Value} (each : ∀ item ∈ items, Admits element item) :
      Admits (.list element) (.array items)

theorem admits_ofInt {n : Int} (fits : fitsInt64 n = true) : Admits .int (.ofInt n) := by
  simp only [fitsInt64, Bool.and_eq_true, decide_eq_true_eq] at fits
  exact .int fits.1 fits.2

theorem fitsInt64_of_integer? {number : Number} {n : Int} (found : integer? number = some n) :
    fitsInt64 n = true := by
  cases number with
  | integer m =>
      simp only [integer?] at found
      split at found
      case isTrue fits =>
        cases found
        exact fits
      case isFalse => cases found
  | float d =>
      obtain ⟨_, small⟩ := Option.filter_eq_some_iff.mp found
      simp only [decide_eq_true_eq] at small
      simp only [fitsInt64, Bool.and_eq_true, decide_eq_true_eq]
      omega

theorem admits_of_variant? {name text : Text} {variants : List Text} {value : Value}
    (found : variant? variants text = some value) : Admits (.enumeration name variants) value := by
  obtain ⟨variant, named, rfl⟩ := Option.map_eq_some_iff.mp found
  exact .enumeration (List.mem_of_find?_eq_some named)

/-- What a text plainly says is of the kind, if what fits the kind is. -/
theorem admits_of_readPlain? {kind : Kind} {fit : Value → Option Value} {raw : Text} {value : Value}
    (fits : ∀ given fitted, fit given = some fitted → Admits kind fitted)
    (read : readPlain? fit raw kind = some value) : Admits kind value := by
  cases kind with
  | string =>
      cases read
      exact .string raw
  | int =>
      obtain ⟨n, found, rfl⟩ := Option.map_eq_some_iff.mp read
      exact admits_ofInt (Option.filter_eq_some_iff.mp found).2
  | float =>
      obtain ⟨d, _, rfl⟩ := Option.map_eq_some_iff.mp read
      exact .float d
  | bool =>
      obtain ⟨b, _, rfl⟩ := Option.map_eq_some_iff.mp read
      exact .bool b
  | json => exact .json value
  | enumeration name variants =>
      rcases Option.or_eq_some_iff.mp read with named | ⟨_, numbered⟩
      · exact admits_of_variant? named
      · obtain ⟨variant, found, rfl⟩ := Option.map_eq_some_iff.mp numbered
        obtain ⟨index, _, chosen⟩ := Option.bind_eq_some_iff.mp found
        exact .enumeration (List.mem_of_getElem? chosen)
  | list element =>
      obtain ⟨given, _, fitted⟩ := Option.bind_eq_some_iff.mp read
      exact fits given value fitted

/-- Every result comes from one of the items. -/
theorem exists_mem_of_mapM {α β : Type} {convert : α → Option β} {items : List α}
    {results : List β} (converted : items.mapM convert = some results) {result : β}
    (member : result ∈ results) : ∃ item ∈ items, convert item = some result := by
  induction items generalizing results with
  | nil =>
      cases converted
      cases member
  | cons first items inductionHypothesis =>
      rw [List.mapM_cons] at converted
      obtain ⟨head, firstConverted, rest⟩ := Option.bind_eq_some_iff.mp converted
      obtain ⟨tail, restConverted, same⟩ := Option.bind_eq_some_iff.mp rest
      cases same
      rcases List.mem_cons.mp member with rfl | later
      · exact ⟨first, List.mem_cons_self, firstConverted⟩
      · obtain ⟨item, among, found⟩ := inductionHypothesis restConverted later
        exact ⟨item, List.mem_cons_of_mem _ among, found⟩

/-- Items that all stay what they are. -/
theorem mapM_eq_self {α : Type} {convert : α → Option α} {items : List α}
    (kept : ∀ item ∈ items, convert item = some item) : items.mapM convert = some items := by
  induction items with
  | nil => rfl
  | cons first items inductionHypothesis =>
      rw [List.forall_mem_cons] at kept
      rw [List.mapM_cons, kept.1, inductionHypothesis kept.2]
      rfl

/-- What fits a kind is of the kind. A string in a list may be read plainly for its element. -/
theorem admits_of_fit? {kind : Kind} {given fitted : Value} (fits : fit? kind given = some fitted) :
    Admits kind fitted := by
  induction kind generalizing given fitted with
  | json => exact .json fitted
  | string =>
      cases given <;> cases fits
      exact .string _
  | bool =>
      cases given <;> cases fits
      exact .bool _
  | int =>
      cases given with
      | number number =>
          obtain ⟨n, found, rfl⟩ := Option.map_eq_some_iff.mp fits
          exact admits_ofInt (fitsInt64_of_integer? found)
      | _ => cases fits
  | float =>
      cases given <;> cases fits
      exact .float _
  | enumeration name variants =>
      cases given with
      | string text => exact admits_of_variant? fits
      | _ => cases fits
  | list element inductionHypothesis =>
      cases given with
      | array items =>
          obtain ⟨results, converted, rfl⟩ := Option.map_eq_some_iff.mp fits
          refine .list fun result member => ?_
          obtain ⟨item, _, found⟩ := exists_mem_of_mapM converted member
          rcases Option.or_eq_some_iff.mp found with fitted | ⟨_, plain⟩
          · exact inductionHypothesis fitted
          · obtain ⟨text, _, read⟩ := Option.bind_eq_some_iff.mp plain
            exact admits_of_readPlain? (fun _ _ => inductionHypothesis) read
      | _ => cases fits

/-- Whatever a conversion without converters gives is of the kind. -/
theorem admits_of_convert {raw : Text} {kind : Kind} {value : Value}
    (converted : convert none none raw kind = .ok value) : Admits kind value := by
  unfold convert at converted
  dsimp only at converted
  split at converted
  case h_1 fitted found =>
    cases converted
    obtain ⟨given, _, fits⟩ := Option.bind_eq_some_iff.mp found
    exact admits_of_fit? fits
  case h_2 =>
    unfold primitive at converted
    split at converted
    case h_1 read =>
      cases converted
      exact admits_of_readPlain? (fun _ _ => admits_of_fit?) read
    case h_2 => cases converted

/-- No two variants of an enumeration in a kind differ in letter case only. -/
def HasDistinctVariants : Kind → Prop
  | .enumeration _ variants => variants.Pairwise fun left right => Text.sameName left right = false
  | .list element => element.HasDistinctVariants
  | .string | .int | .float | .bool | .json => True

/-- Of distinct variants each is found by its own name. -/
theorem variant?_eq_some {variants : List Text} {variant : Text}
    (distinct : variants.Pairwise fun left right => Text.sameName left right = false)
    (declared : variant ∈ variants) : variant? variants variant = some (.string variant) := by
  induction variants with
  | nil => cases declared
  | cons first variants inductionHypothesis =>
      obtain ⟨apart, distinctRest⟩ := List.pairwise_cons.mp distinct
      unfold variant? at inductionHypothesis ⊢
      rcases List.mem_cons.mp declared with rfl | later
      · simp [Text.sameName]
      · rw [List.find?_cons_of_neg (by simpa using apart variant later)]
        exact inductionHypothesis distinctRest later

/-- A value of a kind fits it as it is. -/
theorem Admits.fit?_eq {kind : Kind} {value : Value} (admits : Admits kind value)
    (distinct : kind.HasDistinctVariants) : fit? kind value = some value := by
  induction admits with
  | string | float | bool => rfl
  | json value => cases value <;> rfl
  | @int n low high =>
      have fits : fitsInt64 n = true := by
        simp only [fitsInt64, Bool.and_eq_true, decide_eq_true_eq]
        exact ⟨low, high⟩
      simp only [fit?, integer?, fits, if_true]
      rfl
  | enumeration declared => exact variant?_eq_some distinct declared
  | @list element items each inductionHypothesis =>
      have kept : ∀ item ∈ items, (fit? element item).or
          (item.toText?.bind fun text => readPlain? (fit? element) text element) = some item :=
        fun item member => by rw [inductionHypothesis item member distinct, Option.some_or]
      rw [fit?, mapM_eq_self kept]
      rfl

end CommandLink.Kind
