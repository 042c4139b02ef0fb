import Proctor.Literal.Parser

/-! The grammar of literals over kinds of tokens, with the value that each derivation denotes. A
derivation has room for so many lists, parentheses, braces and calls that are open at once. -/
namespace Proctor.Literal.Grammar

inductive Numeral : Kind → Literal → Prop
  | int (n : Int) : Numeral (.int n) (.int n)
  | float (x : Binary64) : Numeral (.float x) (.float x)
  | infinity (name : String) (spelled : name = "inf" ∨ name = "Infinity") :
      Numeral (.ident name) (.float (.infinity false))
  | nan (name : String) (spelled : name = "nan" ∨ name = "NaN") :
      Numeral (.ident name) (.float .nan)

/-- The opposite number. An integer whose opposite is too large to stay exact becomes a double. -/
def opposite : Literal → Literal
  | .int n => if -n ≤ maxInt then .int (-n) else .float (.ofInt (-n))
  | .float x => .float x.neg
  | other => other

def signed (signs : List Mark) (numeral : Literal) : Literal :=
  if signs.count .minus % 2 = 1 then opposite numeral else numeral

inductive Scalar : List Kind → Literal → Prop
  | null : Scalar [.null] .null
  | bool (b : Bool) : Scalar [.bool b] (.bool b)
  | number (signs : List Mark) (inside : ∀ sign ∈ signs, sign = .plus ∨ sign = .minus)
      (kind : Kind) (numeral : Literal) (unsigned : Numeral kind numeral) :
      Scalar (signs.map .mark ++ [kind]) (signed signs numeral)
  | text (parts : List String) (some : parts ≠ []) :
      Scalar (parts.map .text) (.text (String.join parts))
  | bytes (parts : List (List UInt8)) (some : parts ≠ []) :
      Scalar (parts.map .bytes) (.bytes parts.flatten)

inductive Series {α : Type} (One : List Kind → α → Prop) : List Kind → List α → Prop
  | one (kinds : List Kind) (a : α) (first : One kinds a) : Series One kinds [a]
  | more (kinds : List Kind) (a : α) (others : List Kind) (rest : List α) (first : One kinds a)
      (tail : Series One others rest) :
      Series One (kinds ++ .mark .comma :: others) (a :: rest)

inductive Trailing : List Kind → Prop
  | absent : Trailing []
  | present : Trailing [.mark .comma]

inductive Items {α : Type} (One : List Kind → α → Prop) : List Kind → List α → Prop
  | none : Items One [] []
  | some (kinds : List Kind) (items : List α) (comma : List Kind) (series : Series One kinds items)
      (trailing : Trailing comma) : Items One (kinds ++ comma) items

inductive Entry (One : List Kind → Literal → Prop) : List Kind → Literal × Literal → Prop
  | pair (kinds : List Kind) (key : Literal) (others : List Kind) (content : Literal)
      (first : One kinds key) (second : One others content) :
      Entry One (kinds ++ .mark .colon :: others) (key, content)

def members? : Literal → Option (List Literal)
  | .list items => some items
  | .tuple items => some items
  | .set items => some items
  | .dict entries => some (entries.map (·.1))
  | _ => none

def IsSet (name : String) : Prop := name = "set" ∨ name = "frozenset"

/-- A value that opens something, with `One` for the values in it. -/
inductive Construct (One : List Kind → Literal → Prop) : List Kind → Literal → Prop
  | list (kinds : List Kind) (items : List Literal) (inside : Items One kinds items) :
      Construct One (.mark .listOpen :: kinds ++ [.mark .listClose]) (.list items)
  | unit : Construct One [.mark .parenOpen, .mark .parenClose] (.tuple [])
  | group (kinds : List Kind) (a : Literal) (inside : One kinds a) :
      Construct One (.mark .parenOpen :: kinds ++ [.mark .parenClose]) a
  | tuple (kinds : List Kind) (a : Literal) (others : List Kind) (rest : List Literal)
      (first : One kinds a) (tail : Items One others rest) :
      Construct One (.mark .parenOpen :: kinds ++ .mark .comma :: others ++ [.mark .parenClose])
        (.tuple (a :: rest))
  | empty : Construct One [.mark .braceOpen, .mark .braceClose] (.dict [])
  | dict (kinds : List Kind) (entries : List (Literal × Literal)) (comma : List Kind)
      (series : Series (Entry One) kinds entries) (trailing : Trailing comma) :
      Construct One (.mark .braceOpen :: kinds ++ comma ++ [.mark .braceClose]) (.dict entries)
  | set (kinds : List Kind) (items : List Literal) (comma : List Kind)
      (series : Series One kinds items) (trailing : Trailing comma) :
      Construct One (.mark .braceOpen :: kinds ++ comma ++ [.mark .braceClose]) (.set items)
  | setOfNone (name : String) (isSet : IsSet name) :
      Construct One [.ident name, .mark .parenOpen, .mark .parenClose] (.set [])
  | setOf (name : String) (isSet : IsSet name) (kinds : List Kind) (a : Literal)
      (comma : List Kind) (items : List Literal) (argument : One kinds a)
      (trailing : Trailing comma) (held : members? a = some items) :
      Construct One (.ident name :: .mark .parenOpen :: kinds ++ comma ++ [.mark .parenClose])
        (.set items)
  | dictOfNone : Construct One [.ident "dict", .mark .parenOpen, .mark .parenClose] (.dict [])
  | dictOf (kinds : List Kind) (entries : List (Literal × Literal)) (comma : List Kind)
      (argument : One kinds (.dict entries)) (trailing : Trailing comma) :
      Construct One (.ident "dict" :: .mark .parenOpen :: kinds ++ comma ++ [.mark .parenClose])
        (.dict entries)

/-- A value in which at most `room` constructs are open at once. -/
def Value : Nat → List Kind → Literal → Prop
  | 0 => Scalar
  | room + 1 => fun kinds a => Scalar kinds a ∨ Construct (Value room) kinds a

/-! ### One token -/

theorem scalar_text (value : String) : Scalar [.text value] (.text value) := by
  simpa [String.join] using Scalar.text [value] (by simp)

theorem scalar_bytes (value : List UInt8) : Scalar [.bytes value] (.bytes value) := by
  simpa using Scalar.bytes [value] (by simp)

/-! ### Signs -/

def sign (negative : Bool) : List Mark := if negative then [.minus] else []

theorem scalar_number (negative : Bool) (kind : Kind) (numeral whole : Literal)
    (unsigned : Grammar.Numeral kind numeral)
    (same : whole = if negative then opposite numeral else numeral) :
    Scalar ((sign negative).map .mark ++ [kind]) whole := by
  have inside : ∀ mark ∈ sign negative, mark = .plus ∨ mark = .minus := by
    cases negative <;> simp [sign]
  have scalar := Scalar.number (sign negative) inside kind numeral unsigned
  cases negative <;> simpa [signed,sign,same] using scalar

theorem scalar_int (n : Int) (exact : n.natAbs ≤ maxInt) :
    Scalar ((sign (n < 0)).map .mark ++ [.int n.natAbs]) (.int n) := by
  apply scalar_number _ _ _ _ (.int n.natAbs)
  by_cases negative : n < 0
  · have bounded : -(n.natAbs : Int) ≤ maxInt := by omega
    simp only [negative,decide_true,↓reduceIte,opposite,bounded]
    congr 1
    omega
  · simp only [negative,decide_false,Bool.false_eq_true,↓reduceIte]
    congr 1
    omega

theorem scalar_float (x : Binary64) :
    Scalar ((sign x.negative).map .mark ++ [.float { x with negative := false }]) (.float x) := by
  apply scalar_number _ _ _ _ (.float { x with negative := false })
  obtain ⟨negative,exponent,fraction⟩ := x
  cases negative <;> rfl

/-! ### Series -/

section Series
variable {α : Type} {One : List Kind → α → Prop}

theorem Items.cons (kinds others : List Kind) (a : α) (rest : List α) (first : One kinds a)
    (tail : Items One others rest) : Items One (kinds ++ .mark .comma :: others) (a :: rest) := by
  cases tail with
  | none => exact .some kinds [a] _ (.one kinds a first) .present
  | some others rest comma series trailing =>
    have whole := Items.some _ _ comma (Series.more kinds a others rest first series) trailing
    simpa only [List.append_assoc,List.cons_append] using whole

/-- The same sequences, told from the front: nothing, a last item, or an item before a comma. -/
inductive Listing (One : List Kind → α → Prop) : List Kind → List α → Prop
  | none : Listing One [] []
  | last (kinds : List Kind) (a : α) (first : One kinds a) : Listing One kinds [a]
  | more (kinds : List Kind) (a : α) (others : List Kind) (rest : List α) (first : One kinds a)
      (tail : Listing One others rest) :
      Listing One (kinds ++ .mark .comma :: others) (a :: rest)

theorem Series.listing (kinds comma : List Kind) (items : List α) (series : Series One kinds items)
    (trailing : Trailing comma) : Listing One (kinds ++ comma) items := by
  induction series with
  | one kinds a first =>
    cases trailing with
    | absent => simpa using Listing.last kinds a first
    | present => exact .more kinds a [] [] first .none
  | more kinds a others rest first tail ih =>
    simpa only [List.append_assoc,List.cons_append] using Listing.more kinds a _ _ first ih

theorem Items.listing (kinds : List Kind) (items : List α) (found : Items One kinds items) :
    Listing One kinds items := by
  cases found with
  | none => exact .none
  | some kinds _ comma series trailing => exact series.listing _ _ _ trailing

theorem Items.series (kinds : List Kind) (a : α) (rest : List α)
    (items : Items One kinds (a :: rest)) : ∃ series comma, kinds = series ++ comma ∧
      Series One series (a :: rest) ∧ Trailing comma := by
  cases items with
  | some kinds _ comma series trailing => exact ⟨kinds,comma,rfl,series,trailing⟩

inductive Others (One : List Kind → α → Prop) : List Kind → List α → Prop
  | none (comma : List Kind) (trailing : Trailing comma) : Others One comma []
  | some (kinds : List Kind) (a : α) (others : List Kind) (rest : List α) (next : One kinds a)
      (tail : Others One others rest) :
      Others One (.mark .comma :: kinds ++ others) (a :: rest)

theorem Others.series (others : List Kind) (rest : List α) (tail : Others One others rest) :
    ∀ kinds a, One kinds a → ∃ series comma, kinds ++ others = series ++ comma ∧
      Series One series (a :: rest) ∧ Trailing comma := by
  induction tail with
  | none comma trailing =>
    intro kinds a first
    exact ⟨kinds,comma,rfl,.one kinds a first,trailing⟩
  | some next b others rest nextOne tail ih =>
    intro kinds a first
    obtain ⟨series,comma,same,series_ok,trailing⟩ := ih next b nextOne
    refine ⟨kinds ++ .mark .comma :: series,comma,?_,.more kinds a series _ first series_ok,trailing⟩
    simp [same]

theorem Series.others (kinds comma : List Kind) (items : List α) (series : Series One kinds items)
    (trailing : Trailing comma) : ∃ first a others rest, kinds ++ comma = first ++ others ∧
      items = a :: rest ∧ One first a ∧ Others One others rest := by
  induction series with
  | one kinds a first => exact ⟨kinds,a,comma,[],rfl,rfl,first,.none comma trailing⟩
  | more kinds a others rest first tail ih =>
    obtain ⟨next,b,after,more,same,listed,nextOne,others_ok⟩ := ih
    subst listed
    refine ⟨kinds,a,.mark .comma :: next ++ after,b :: more,?_,rfl,first,
      .some next b after more nextOne others_ok⟩
    simp [same]

end Series

def commas : List (List Kind) → List Kind
  | [] => []
  | [kinds] => kinds
  | kinds :: rest => kinds ++ .mark .comma :: commas rest

theorem series_commas {α β : Type} (One : List Kind → α → Prop) (kinds : β → List Kind) (make : β → α)
    (items : List β) (some : items ≠ []) (each : ∀ b ∈ items, One (kinds b) (make b)) :
    Series One (commas (items.map kinds)) (items.map make) := by
  induction items with
  | nil => exact absurd rfl some
  | cons b items ih =>
    have first := each b (by simp)
    cases items with
    | nil => exact .one _ _ first
    | cons c items =>
      exact .more _ _ _ _ first (ih (by simp) fun d member => each d (List.mem_cons_of_mem _ member))

/-! ### More room -/

theorem Series.mono {α : Type} {One More : List Kind → α → Prop}
    (wider : ∀ kinds a, One kinds a → More kinds a) (kinds : List Kind) (items : List α)
    (series : Series One kinds items) : Series More kinds items := by
  induction series with
  | one kinds a first => exact .one kinds a (wider kinds a first)
  | more kinds a others rest first tail ih => exact .more kinds a others rest (wider kinds a first) ih

theorem Items.mono {α : Type} {One More : List Kind → α → Prop}
    (wider : ∀ kinds a, One kinds a → More kinds a) (kinds : List Kind) (items : List α)
    (found : Items One kinds items) : Items More kinds items := by
  cases found with
  | none => exact .none
  | some kinds _ comma series trailing => exact .some kinds items comma (series.mono wider) trailing

theorem Entry.mono {One More : List Kind → Literal → Prop}
    (wider : ∀ kinds a, One kinds a → More kinds a) (kinds : List Kind)
    (entry : Literal × Literal) (found : Entry One kinds entry) : Entry More kinds entry := by
  cases found with
  | pair kinds key others content first second =>
    exact .pair kinds key others content (wider _ _ first) (wider _ _ second)

theorem Construct.mono {One More : List Kind → Literal → Prop}
    (wider : ∀ kinds a, One kinds a → More kinds a) (kinds : List Kind) (a : Literal)
    (found : Construct One kinds a) : Construct More kinds a := by
  cases found with
  | list kinds items inside => exact .list kinds items (inside.mono wider)
  | unit => exact .unit
  | group kinds a inside => exact .group kinds a (wider _ _ inside)
  | tuple kinds a others rest first tail =>
    exact .tuple kinds a others rest (wider _ _ first) (tail.mono wider)
  | empty => exact .empty
  | dict kinds entries comma series trailing =>
    exact .dict kinds entries comma (series.mono (Entry.mono wider)) trailing
  | set kinds items comma series trailing =>
    exact .set kinds items comma (series.mono wider) trailing
  | setOfNone name isSet => exact .setOfNone name isSet
  | setOf name isSet kinds a comma items argument trailing held =>
    exact .setOf name isSet kinds a comma items (wider _ _ argument) trailing held
  | dictOfNone => exact .dictOfNone
  | dictOf kinds entries comma argument trailing =>
    exact .dictOf kinds entries comma (wider _ _ argument) trailing

private theorem value_succ (room : Nat) (kinds : List Kind) (a : Literal) (found : Value room kinds a) :
    Value (room + 1) kinds a := by
  induction room generalizing kinds a with
  | zero => exact .inl found
  | succ room ih =>
    rcases found with scalar | construct
    · exact .inl scalar
    · exact .inr (construct.mono ih)

theorem value_mono (room more : Nat) (le : room ≤ more) (kinds : List Kind) (a : Literal)
    (found : Value room kinds a) : Value more kinds a := by
  induction le with
  | refl => exact found
  | step _ ih => exact value_succ _ kinds a ih

/-! ### First kinds -/

def Starts : Kind → Prop
  | .mark sign => sign ∈ [Mark.plus, .minus, .listOpen, .parenOpen, .braceOpen]
  | .finish => False
  | _ => True

def Headed {α : Type} (One : List Kind → α → Prop) : Prop :=
  ∀ kinds a, One kinds a → ∃ kind rest, kinds = kind :: rest ∧ Starts kind

theorem scalar_headed : Headed Scalar := by
  intro kinds a scalar
  cases scalar with
  | null => exact ⟨_,_,rfl,trivial⟩
  | bool b => exact ⟨_,_,rfl,trivial⟩
  | number signs inside kind numeral unsigned =>
    cases signs with
    | nil =>
      refine ⟨kind,[],rfl,?_⟩
      cases unsigned <;> trivial
    | cons sign signs =>
      refine ⟨.mark sign,_,rfl,?_⟩
      rcases inside sign (by simp) with rfl | rfl <;> simp [Starts]
  | text parts some =>
    cases parts with
    | nil => exact absurd rfl some
    | cons part parts => exact ⟨_,_,rfl,trivial⟩
  | bytes parts some =>
    cases parts with
    | nil => exact absurd rfl some
    | cons part parts => exact ⟨_,_,rfl,trivial⟩

private theorem construct_headed (One : List Kind → Literal → Prop) : Headed (Construct One) := by
  intro kinds a construct
  cases construct <;> exact ⟨_,_,rfl,by simp [Starts]⟩

theorem value_headed (room : Nat) : Headed (Value room) := by
  cases room with
  | zero => exact scalar_headed
  | succ room =>
    rintro kinds a (scalar | construct)
    · exact scalar_headed kinds a scalar
    · exact construct_headed _ kinds a construct

theorem Listing.length_le {α : Type} {One : List Kind → α → Prop} (headed : Headed One)
    (kinds : List Kind) (items : List α) (listing : Listing One kinds items) :
    items.length ≤ kinds.length := by
  induction listing with
  | none => simp
  | last kinds a first =>
    obtain ⟨kind,rest,rfl,_⟩ := headed _ _ first
    simp
  | more kinds a others rest first tail ih =>
    simp only [List.length_cons,List.length_append]
    omega

theorem Others.length_le {α : Type} {One : List Kind → α → Prop} (kinds : List Kind)
    (items : List α) (others : Others One kinds items) : items.length ≤ kinds.length := by
  induction others with
  | none comma trailing => simp
  | some kinds a others rest next tail ih =>
    simp only [List.length_cons,List.length_append,List.cons_append]
    omega

end Proctor.Literal.Grammar
