import Mathlib.Data.List.Infix

/-!
# Search with `ILIKE`

A `LIKE` pattern is a text in which `%` stands for any text, `_` for any character, and a backslash makes a
literal of the character after it; `ILIKE` compares the texts in lower case. The pattern that a search makes of
what the user typed is that text between two `%`. It matches the texts that contain the typed text exactly when
nothing in it is a metacharacter: otherwise the shortest text that the pattern matches does not contain it.
-/

namespace Like

/-- What one element of a pattern matches. -/
inductive Token
  | lit (c : Char)
  | one
  | many
  deriving DecidableEq

def metacharacters : List Char := ['%', '_', '\\']

/-- The elements of a pattern, of which the escape character may have been read. A pattern that ends with its
escape character is an error. -/
def tokens : Bool → List Char → Option (List Token)
  | false, [] => some []
  | true, [] => none
  | true, c :: cs => (tokens false cs).map (.lit c :: ·)
  | false, c :: cs =>
    if c = '%' then (tokens false cs).map (.many :: ·)
    else if c = '_' then (tokens false cs).map (.one :: ·)
    else if c = '\\' then tokens true cs
    else (tokens false cs).map (.lit c :: ·)

/-- The elements match the whole text. -/
def accepts : List Token → List Char → Bool
  | [], x => x.isEmpty
  | .lit c :: ts, x =>
    match x with
    | [] => false
    | d :: y => d = c && accepts ts y
  | .one :: ts, x =>
    match x with
    | [] => false
    | _ :: y => accepts ts y
  | .many :: ts, x => x.tails.any fun y => accepts ts y

variable {ts : List Token} {x s : List Char} {c f : Char}

@[simp] theorem accepts_nil : accepts [] x = true ↔ x = [] := List.isEmpty_iff

@[simp] theorem accepts_lit : accepts (.lit c :: ts) x = true ↔ ∃ y, x = c :: y ∧ accepts ts y = true := by
  cases x <;> simp [accepts]

@[simp] theorem accepts_one : accepts (.one :: ts) x = true ↔ ∃ d y, x = d :: y ∧ accepts ts y = true := by
  cases x <;> simp [accepts]

@[simp] theorem accepts_many : accepts (.many :: ts) x = true ↔ ∃ y, y <:+ x ∧ accepts ts y = true := by
  simp [accepts]

/-! ### The pattern of a search -/

/-- The elements of what was typed, with the `%` that is put after it. -/
def searchTokens : Bool → List Char → List Token
  | false, [] => [.many]
  | true, [] => [.lit '%']
  | true, c :: cs => .lit c :: searchTokens false cs
  | false, c :: cs =>
    if c = '%' then .many :: searchTokens false cs
    else if c = '_' then .one :: searchTokens false cs
    else if c = '\\' then searchTokens true cs
    else .lit c :: searchTokens false cs

theorem tokens_append {e : Bool} : tokens e (s ++ ['%']) = some (searchTokens e s) := by
  fun_induction searchTokens e s <;> simp_all [tokens]

theorem tokens_search : tokens false ('%' :: (s ++ ['%'])) = some (.many :: searchTokens false s) := by
  simp [tokens, tokens_append]

theorem searchTokens_of_literal (h : ∀ c ∈ s, c ∉ metacharacters) :
    searchTokens false s = s.map .lit ++ [.many] := by
  induction s with
  | nil => rfl
  | cons c s ih =>
    rw [List.forall_mem_cons] at h
    simp_all [searchTokens, metacharacters]

theorem accepts_prefix : accepts (s.map .lit ++ [.many]) x = true ↔ s <+: x := by
  induction s generalizing x with
  | nil => simp
  | cons c s ih =>
    simp only [List.map_cons, List.cons_append, accepts_lit, ih]
    constructor
    · rintro ⟨y, rfl, hy⟩
      exact List.prefix_cons_inj c |>.mpr hy
    · rintro ⟨y, rfl⟩
      exact ⟨s ++ y, rfl, s.prefix_append y⟩

theorem accepts_search (h : ∀ c ∈ s, c ∉ metacharacters) :
    accepts (.many :: searchTokens false s) x = true ↔ s <:+: x := by
  rw [searchTokens_of_literal h, List.infix_iff_prefix_suffix]
  simp only [accepts_many, accepts_prefix]
  exact exists_congr fun y => and_comm

/-! ### The shortest match -/

/-- The shortest text that is matched, with `f` wherever any character is. -/
def shortest (f : Char) (ts : List Token) : List Char :=
  ts.filterMap fun
    | .lit c => some c
    | .one => some f
    | .many => none

theorem accepts_shortest : accepts ts (shortest f ts) = true := by
  induction ts with
  | nil => rfl
  | cons t ts ih =>
    cases t with
    | lit c => simpa [shortest] using ih
    | one => simpa [shortest] using ih
    | many => exact accepts_many.mpr ⟨_, List.suffix_rfl, ih⟩

theorem mem_of_mem_shortest (h : accepts ts x = true) (hc : c ∈ shortest f ts) (hne : c ≠ f) : c ∈ x := by
  induction ts generalizing x with
  | nil => exact nomatch hc
  | cons t ts ih =>
    cases t with
    | lit d =>
      obtain ⟨y, rfl, hy⟩ := accepts_lit.mp h
      rw [List.mem_cons]
      exact (List.mem_cons.mp hc).imp_right fun hrest => ih hy hrest
    | one =>
      obtain ⟨d, y, rfl, hy⟩ := accepts_one.mp h
      exact List.mem_cons_of_mem d (ih hy ((List.mem_cons.mp hc).resolve_left hne))
    | many =>
      obtain ⟨y, hsuffix, hy⟩ := accepts_many.mp h
      exact hsuffix.subset (ih hy hc)

theorem shortest_length_le (h : accepts ts x = true) : (shortest f ts).length ≤ x.length := by
  induction ts generalizing x with
  | nil => exact Nat.zero_le _
  | cons t ts ih =>
    cases t with
    | lit c =>
      obtain ⟨y, rfl, hy⟩ := accepts_lit.mp h
      exact Nat.succ_le_succ (ih hy)
    | one =>
      obtain ⟨d, y, rfl, hy⟩ := accepts_one.mp h
      exact Nat.succ_le_succ (ih hy)
    | many =>
      obtain ⟨y, hsuffix, hy⟩ := accepts_many.mp h
      exact (ih hy).trans hsuffix.length_le

theorem length_shortest_search_le {e : Bool} :
    (shortest f (searchTokens e s)).length ≤ s.length + if e then 1 else 0 := by
  fun_induction searchTokens e s <;> simp_all [shortest] <;> omega

theorem mem_of_mem_shortest_search {e : Bool} (hc : c ∈ shortest f (searchTokens e s)) (hne : c ≠ f)
    (hpercent : c ≠ '%') : c ∈ s := by
  fun_induction searchTokens e s <;> simp_all [shortest] <;> grind

theorem shortest_search_ne_escape : shortest f (searchTokens true s) ≠ '\\' :: s := by
  cases s with
  | nil => simp [searchTokens, shortest]
  | cons c s =>
    have hlength : (shortest f (searchTokens false s)).length ≤ s.length := length_shortest_search_le
    intro h
    have := congrArg List.length h
    simp [searchTokens, shortest] at this hlength
    omega

theorem literal_of_shortest_search (hf : f ≠ '_') (h : shortest f (searchTokens false s) = s) :
    ∀ c ∈ s, c ∉ metacharacters := by
  induction s with
  | nil => simp
  | cons c s ih =>
    have hlength : (shortest f (searchTokens false s)).length ≤ s.length := length_shortest_search_le
    by_cases hmany : c = '%'
    · have := congrArg List.length h
      simp [searchTokens, hmany, shortest] at this hlength
      omega
    by_cases hone : c = '_'
    · simp [searchTokens, hone, shortest] at h
      exact absurd h.1 hf
    by_cases hescape : c = '\\'
    · simp only [searchTokens, hescape] at h
      exact absurd h shortest_search_ne_escape
    · simp [searchTokens, hmany, hone, hescape, shortest] at h
      rw [List.forall_mem_cons]
      exact ⟨by simp [metacharacters, hmany, hone, hescape], ih h⟩

/-! ### Lower case -/

/-- What the database's collation says of texts: the lower case of a character, which is no metacharacter and no
`NUL` unless the character is that one itself, and the key by which texts are sorted. -/
structure Collation where
  lower : Char → Char
  lower_eq_iff : ∀ m ∈ '\x00' :: metacharacters, ∀ c, lower c = m ↔ c = m
  sortKey : String → String

/-- Nothing in the text is a metacharacter. -/
def Literal (s : String) : Prop := ∀ c ∈ s.toList, c ∉ metacharacters

instance (s : String) : Decidable (Literal s) := List.decidableBAll (fun c => c ∉ metacharacters) s.toList

/-- A shortest text that the search for `s` finds. -/
def shortestMatch (s : String) : String := String.ofList (shortest '-' (searchTokens false s.toList))

namespace Collation

variable (k : Collation) {s text : String}

def lowered (s : String) : List Char := s.toList.map k.lower

/-- `text ILIKE pattern`. -/
def ilike (text pattern : String) : Option Bool :=
  (tokens false (k.lowered pattern)).map fun ts => accepts ts (k.lowered text)

/-- The text contains `s`, upper and lower case aside. -/
def Contains (text s : String) : Prop := k.lowered s <:+: k.lowered text

instance (text s : String) : Decidable (k.Contains text s) := inferInstanceAs (Decidable (_ <:+: _))

@[simp] theorem length_lowered : (k.lowered s).length = s.length := by
  simp [lowered, String.length_toList]

theorem ilike_search : k.ilike text ("%" ++ s ++ "%") =
    some (accepts (.many :: searchTokens false (k.lowered s)) (k.lowered text)) := by
  have hpercent : k.lower '%' = '%' := (k.lower_eq_iff '%' (by decide) '%').mpr rfl
  have hpattern : k.lowered ("%" ++ s ++ "%") = '%' :: (k.lowered s ++ ['%']) := by
    simp [lowered, hpercent]
  rw [ilike, hpattern, tokens_search, Option.map_some]

theorem literal_lowered : (∀ c ∈ k.lowered s, c ∉ metacharacters) ↔ Literal s := by
  simp only [lowered, List.mem_map, forall_exists_index, and_imp, forall_apply_eq_imp_iff₂]
  refine forall₂_congr fun c _ => not_congr ⟨fun h => ?_, fun h => ?_⟩
  · exact (k.lower_eq_iff _ (List.mem_cons_of_mem _ h) c).mp rfl ▸ h
  · exact (k.lower_eq_iff c (List.mem_cons_of_mem _ h) c).mpr rfl |>.symm ▸ h

theorem nul_mem_lowered : '\x00' ∈ k.lowered s ↔ '\x00' ∈ s.toList := by
  simp [lowered, k.lower_eq_iff '\x00' List.mem_cons_self]

/-- **A search without metacharacters is a search for a substring.** -/
theorem ilike_iff_contains (h : Literal s) : k.ilike text ("%" ++ s ++ "%") = some true ↔ k.Contains text s := by
  rw [ilike_search, Option.some_inj]
  exact accepts_search (k.literal_lowered.mpr h)

theorem Contains.literal {k : Collation} (h : k.Contains text s) (htext : Literal text) : Literal s :=
  k.literal_lowered.mp fun c hc => k.literal_lowered.mpr htext c (h.subset hc)

/-! ### Where a search finds something else -/

theorem map_shortest_search {e : Bool} {s : List Char} {f : Char} : (shortest f (searchTokens e s)).map k.lower =
    shortest (k.lower f) (searchTokens e (s.map k.lower)) := by
  have hiff : ∀ c, (k.lower c = '%' ↔ c = '%') ∧ (k.lower c = '_' ↔ c = '_') ∧ (k.lower c = '\\' ↔ c = '\\') :=
    fun c => ⟨k.lower_eq_iff '%' (by decide) c, k.lower_eq_iff '_' (by decide) c,
      k.lower_eq_iff '\\' (by decide) c⟩
  fun_induction searchTokens e s <;> simp_all [shortest, searchTokens]

theorem lowered_shortestMatch :
    k.lowered (shortestMatch s) = shortest (k.lower '-') (searchTokens false (k.lowered s)) := by
  rw [lowered, shortestMatch, String.toList_ofList, map_shortest_search, lowered]

theorem ilike_shortestMatch : k.ilike (shortestMatch s) ("%" ++ s ++ "%") = some true := by
  rw [ilike_search, lowered_shortestMatch, accepts_many.mpr ⟨_, List.suffix_rfl, accepts_shortest⟩]

theorem not_contains_shortestMatch (h : ¬ Literal s) : ¬ k.Contains (shortestMatch s) s := by
  intro hcontains
  rw [Contains, lowered_shortestMatch] at hcontains
  have hlength : (shortest (k.lower '-') (searchTokens false (k.lowered s))).length ≤ (k.lowered s).length :=
    length_shortest_search_le
  have heq := hcontains.eq_of_length (Nat.le_antisymm hcontains.length_le hlength)
  have hfill : k.lower '-' ≠ '_' := fun he => absurd ((k.lower_eq_iff '_' (by decide) '-').mp he) (by decide)
  exact h (k.literal_lowered.mp (literal_of_shortest_search hfill heq.symm))

theorem length_le_of_ilike (h : k.ilike text ("%" ++ s ++ "%") = some true) :
    (shortestMatch s).length ≤ text.length := by
  rw [ilike_search, Option.some_inj] at h
  obtain ⟨y, hsuffix, hy⟩ := accepts_many.mp h
  have hshort : (shortestMatch s).length ≤ y.length := by
    rw [← k.length_lowered, lowered_shortestMatch]
    exact shortest_length_le hy
  exact hshort.trans (hsuffix.length_le.trans k.length_lowered.le)

theorem length_le_of_contains (h : k.Contains text s) : (shortestMatch s).length ≤ text.length := by
  have hshort : (shortestMatch s).length ≤ (k.lowered s).length := by
    rw [← k.length_lowered, lowered_shortestMatch]
    exact length_shortest_search_le
  exact hshort.trans (h.length_le.trans k.length_lowered.le)

theorem nul_mem_of_ilike (hnul : '\x00' ∈ (shortestMatch s).toList)
    (h : k.ilike text ("%" ++ s ++ "%") = some true) : '\x00' ∈ text.toList := by
  rw [← k.nul_mem_lowered, lowered_shortestMatch] at hnul
  rw [ilike_search, Option.some_inj] at h
  obtain ⟨y, hsuffix, hy⟩ := accepts_many.mp h
  have hfill : '\x00' ≠ k.lower '-' := fun he =>
    absurd ((k.lower_eq_iff '\x00' List.mem_cons_self '-').mp he.symm) (by decide)
  exact k.nul_mem_lowered.mp (hsuffix.subset (mem_of_mem_shortest hy hnul hfill))

theorem nul_mem_of_contains (hnul : '\x00' ∈ (shortestMatch s).toList) (h : k.Contains text s) :
    '\x00' ∈ text.toList := by
  have hs : '\x00' ∈ s.toList := by
    rw [shortestMatch, String.toList_ofList] at hnul
    exact mem_of_mem_shortest_search hnul (by decide) (by decide)
  exact k.nul_mem_lowered.mp (h.subset (k.nul_mem_lowered.mpr hs))

end Collation

end Like
