import ScriptHost.Module.Basic

/-!
The internal names of compiled scripts. A module is compiled under its name and
number, with one more letter for each time it was reloaded. The three can be read
back from the internal name: the letters at its end are the reloads, the digits
before them the number, and what is before the last hyphen is the name.
-/

namespace ScriptHost

/-- The internal name of a module after a number of reloads. -/
def internalNameOf (name : String) (id : Nat) : Nat → String
  | 0 => s!"{name}-{id}"
  | reloads + 1 => internalNameOf name id reloads ++ "R"

private theorem internalNameOf_toList (name : String) (id reloads : Nat) :
    (internalNameOf name id reloads).toList =
      name.toList ++ '-' :: (Nat.toDigits 10 id ++ List.replicate reloads 'R') := by
  induction reloads with
  | zero =>
      have htext : internalNameOf name id 0 = name ++ "-" ++ toString id := rfl
      rw [htext]
      simp
  | succ reloads ih =>
      simp only [internalNameOf, String.toList_append, ih]
      rw [List.replicate_succ']
      simp

/-- Two lists that begin with letters of one kind and go on with a letter of
another kind agree in both parts. -/
private theorem prefix_unique {α : Type} (p : α → Bool) {a b : α}
    (ha : p a = false) (hb : p b = false) {restA restB : List α} :
    ∀ {left right : List α}, (∀ c ∈ left, p c = true) →
      (∀ c ∈ right, p c = true) →
      left ++ a :: restA = right ++ b :: restB →
      left = right ∧ a :: restA = b :: restB
  | [], [], _, _, heq => ⟨rfl, by simpa using heq⟩
  | [], c :: right, _, hright, heq => by
      have hac : a = c := by
        simpa using congrArg List.head? heq
      have hc := hright c List.mem_cons_self
      rw [← hac, ha] at hc
      cases hc
  | c :: left, [], hleft, _, heq => by
      have hcb : c = b := by
        simpa using congrArg List.head? heq
      have hc := hleft c List.mem_cons_self
      rw [hcb, hb] at hc
      cases hc
  | c :: left, d :: right, hleft, hright, heq => by
      simp only [List.cons_append, List.cons.injEq] at heq
      obtain ⟨hcd, htail⟩ := heq
      have ih := prefix_unique p ha hb
        (fun x hx => hleft x (List.mem_cons_of_mem _ hx))
        (fun x hx => hright x (List.mem_cons_of_mem _ hx)) htail
      exact ⟨by rw [hcd, ih.1], ih.2⟩

private theorem toDigits_injective {m n : Nat}
    (heq : Nat.toDigits 10 m = Nat.toDigits 10 n) : m = n := by
  have hread := congrArg (fun digits => Nat.ofDigitChars 10 digits 0) heq
  simpa using hread

/-- The digits and the letters at the end of an internal name, backwards. -/
private theorem reverse_tail (id reloads : Nat) :
    ∃ digit digits, (Nat.toDigits 10 id).reverse = digit :: digits ∧
      (Nat.toDigits 10 id ++ List.replicate reloads 'R').reverse =
        List.replicate reloads 'R' ++ digit :: digits ∧
      (digit == 'R') = false := by
  cases hrev : (Nat.toDigits 10 id).reverse with
  | nil =>
      rw [List.reverse_eq_nil_iff] at hrev
      exact absurd hrev Nat.toDigits_ne_nil
  | cons digit digits =>
      refine ⟨digit, digits, rfl, by simp [hrev], ?_⟩
      have hmem : digit ∈ Nat.toDigits 10 id := by
        rw [← List.mem_reverse, hrev]
        exact List.mem_cons_self
      have hdigit := Nat.isDigit_of_mem_toDigits (by omega) (by omega) hmem
      rw [beq_eq_false_iff_ne]
      intro hletter
      rw [hletter] at hdigit
      exact absurd hdigit (by decide)

private theorem tail_unique {id id' reloads reloads' : Nat}
    (heq : Nat.toDigits 10 id ++ List.replicate reloads 'R' =
      Nat.toDigits 10 id' ++ List.replicate reloads' 'R') :
    id = id' ∧ reloads = reloads' := by
  obtain ⟨digit, digits, hdigits, hrev, hdigit⟩ := reverse_tail id reloads
  obtain ⟨digit', digits', hdigits', hrev', hdigit'⟩ := reverse_tail id' reloads'
  have hback := congrArg List.reverse heq
  rw [hrev, hrev'] at hback
  have hletters : ∀ (n : Nat), ∀ c ∈ List.replicate n 'R', (c == 'R') = true := by
    intro n c hc
    simp [(List.mem_replicate.mp hc).2]
  obtain ⟨hreloads, hnumber⟩ := prefix_unique (· == 'R') hdigit hdigit'
    (hletters reloads) (hletters reloads') hback
  constructor
  · apply toDigits_injective
    rw [← List.reverse_inj, hdigits, hdigits', hnumber]
  · simpa using congrArg List.length hreloads

private theorem no_hyphen_in_tail (id reloads : Nat) :
    ∀ c ∈ (Nat.toDigits 10 id ++ List.replicate reloads 'R').reverse,
      (c != '-') = true := by
  intro c hc
  rw [List.mem_reverse, List.mem_append] at hc
  rcases hc with hdigit | hletter
  · have hc := Nat.isDigit_of_mem_toDigits (by omega) (by omega) hdigit
    rw [bne_iff_ne]
    intro hhyphen
    rw [hhyphen] at hc
    exact absurd hc (by decide)
  · rw [(List.mem_replicate.mp hletter).2]
    decide

/-- An internal name says which module it is of, and after how many reloads. -/
theorem internalNameOf_injective {name name' : String}
    {id id' reloads reloads' : Nat}
    (heq : internalNameOf name id reloads = internalNameOf name' id' reloads') :
    name = name' ∧ id = id' ∧ reloads = reloads' := by
  have hlist := congrArg String.toList heq
  rw [internalNameOf_toList, internalNameOf_toList] at hlist
  have hback := congrArg List.reverse hlist
  simp only [List.reverse_append, List.reverse_cons, List.append_assoc,
    List.cons_append, List.nil_append] at hback
  simp only [← List.append_assoc, ← List.reverse_append] at hback
  obtain ⟨htail, hfront⟩ := prefix_unique (· != '-') (by decide) (by decide)
    (no_hyphen_in_tail id reloads) (no_hyphen_in_tail id' reloads') hback
  have hname : name.toList = name'.toList := by
    simpa using hfront
  obtain ⟨hid, hreloads⟩ := tail_unique (List.reverse_inj.mp htail)
  exact ⟨String.toList_injective hname, hid, hreloads⟩

end ScriptHost
