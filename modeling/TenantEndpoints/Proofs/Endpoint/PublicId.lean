import TenantEndpoints.Cluster.Run
import TenantEndpoints.Endpoint.Names
import TenantEndpoints.Proofs.Specimen

/-!
# Public ids of different tenants

All endpoints share one host, and the path prefix of one port takes every request whose
path begins with its id. Ids are kept apart by where their tokens end: tokens come first
and are all of one length, so an id begins with another only if the tokens are the same
and the ids of the tenants, without their hyphens, begin alike.
-/
namespace TenantEndpoints

namespace RandomSource

/-- What is drawn for several texts of one length is drawn for one after the other. -/
theorem take_drop_take (source : RandomSource) (drawn length : Nat) {count i : Nat}
    (h : i < count) :
    ((source.take drawn (count * length)).drop (i * length)).take length =
      source.take (drawn + i * length) length := by
  have hwithin : i * length + length ≤ count * length := by
    rw [← Nat.succ_mul]
    exact Nat.mul_le_mul_right length h
  apply List.ext_getElem
  · simp
    omega
  · intro j _ _
    simp [take, Nat.add_assoc]

end RandomSource

namespace PublicId

/-- The letters and digits of tokens. -/
def tokenAlphabet : List Char := "abcdefghijklmnopqrstuvwxyz0123456789".toList

theorem toLower_mem_tokenAlphabet {c : Char} (h : c ∈ RandomSource.alphabet) :
    c.toLower ∈ tokenAlphabet := by
  have hall : RandomSource.alphabet.all (·.toLower ∈ tokenAlphabet) = true := by decide +kernel
  exact of_decide_eq_true (List.all_eq_true.1 hall c h)

theorem toList_ofToken (token : List Char) (tenant : String) :
    (ofToken token tenant).toList = token.map Char.toLower ++ tenantPart tenant :=
  String.toList_ofList

/-- Where one id begins with another, neither token reaches into the other's tenant. -/
theorem ofToken_prefix_iff {token token' : List Char} (h : token.length = token'.length)
    (tenant tenant' : String) :
    (ofToken token tenant).toList <+: (ofToken token' tenant').toList ↔
      token.map Char.toLower = token'.map Char.toLower ∧
        tenantPart tenant <+: tenantPart tenant' := by
  rw [toList_ofToken, toList_ofToken]
  exact List.prefix_append_inj_of_length_eq (by simp [h])

theorem take_ofToken {token : List Char} {length : Nat} (h : token.length = length)
    (tenant : String) :
    (ofToken token tenant).toList.take length = token.map Char.toLower := by
  rw [toList_ofToken]
  exact List.take_left' (by simp [h])

/-- Each id has a token of its own, drawn after those of the ids before it. -/
theorem run_allocate (s : Surroundings) (length count : Nat) (tenant : String) (w : World) :
    (allocate length count tenant).run s w =
      ⟨(List.range count).map fun i =>
          ofToken (s.random.take (w.drawn + i * length) length) tenant,
        { w with drawn := w.drawn + count * length }, []⟩ := by
  induction count generalizing w with
  | zero => simp [allocate]
  | succ count ih =>
    have hdraw : (Program.perform (.draw length)).run s w =
        ⟨s.random.take w.drawn length, { w with drawn := w.drawn + length }, []⟩ := rfl
    have hdrawn : w.drawn + length + count * length = w.drawn + (count + 1) * length := by
      rw [Nat.succ_mul]
      omega
    have hstart (i : Nat) : w.drawn + length + i * length = w.drawn + (i + 1) * length := by
      rw [Nat.succ_mul]
      omega
    simp only [allocate, Program.run_bind, hdraw, ih, Program.pure_eq, Program.run_done, hdrawn,
      hstart, List.range_succ_eq_map, List.map_cons, List.map_map, Nat.zero_mul, Nat.add_zero,
      List.append_nil]
    rfl

/-- The tokens of the ids that are allocated next, each drawn after the one before. -/
def tokens (source : RandomSource) (drawn length count : Nat) : List (List Char) :=
  (List.range count).map fun i => source.take (drawn + i * length) length

@[simp] theorem length_tokens (source : RandomSource) (drawn length count : Nat) :
    (tokens source drawn length count).length = count := by
  simp [tokens]

theorem length_of_mem_tokens {source : RandomSource} {drawn length count : Nat}
    {token : List Char} (h : token ∈ tokens source drawn length count) : token.length = length := by
  obtain ⟨i, -, rfl⟩ := List.mem_map.1 h
  exact source.length_take _ length

theorem value_allocate (s : Surroundings) (length count : Nat) (tenant : String) (w : World) :
    ((allocate length count tenant).run s w).value =
      (tokens s.random w.drawn length count).map (ofToken · tenant) := by
  rw [run_allocate, tokens, List.map_map]
  rfl

theorem exists_of_mem_allocate {s : Surroundings} {length count : Nat} {tenant : String} {w : World}
    {id : String} (h : id ∈ ((allocate length count tenant).run s w).value) :
    ∃ token : List Char, token.length = length ∧ id = ofToken token tenant := by
  rw [value_allocate] at h
  obtain ⟨token, htoken, rfl⟩ := List.mem_map.1 h
  exact ⟨token, length_of_mem_tokens htoken, rfl⟩

/-- Allocation draws as many characters as the tokens have, and no others: each id is the
next block of them in lower case, followed by the tenant's id without hyphens. Whatever
was drawn, an id only begins with another if their tokens are the same and the tenants'
ids, without hyphens, begin alike; so it never is that of a tenant with another such id. -/
theorem ids_shadow_only_kin (length : Nat) :
    let bare (tenant : String) : List Char := tenant.toList.filter (· ≠ '-')
    (∀ (s : Surroundings) (w : World) (count : Nat) (tenant : String),
      let run := (allocate length count tenant).run s w
      let drawn := s.random.take w.drawn (count * length)
      run.world = { w with drawn := w.drawn + count * length } ∧ run.entries = [] ∧
      run.value.length = count ∧
      ∀ i < count,
        let token := ((drawn.drop (i * length)).take length).map Char.toLower
        run.value[i]? = some (String.ofList (token ++ bare tenant)) ∧ token.length = length ∧
        ((∀ c ∈ drawn, c ∈ RandomSource.alphabet) → ∀ c ∈ token, c ∈ tokenAlphabet)) ∧
    (∀ (s₁ s₂ : Surroundings) (w₁ w₂ : World) (count₁ count₂ : Nat) (tenant₁ tenant₂ a b : String),
      a ∈ ((allocate length count₁ tenant₁).run s₁ w₁).value →
      b ∈ ((allocate length count₂ tenant₂).run s₂ w₂).value →
      (a.toList <+: b.toList ↔
        a.toList.take length = b.toList.take length ∧ bare tenant₁ <+: bare tenant₂) ∧
      (bare tenant₁ ≠ bare tenant₂ → a ≠ b)) := by
  intro bare
  constructor
  · intro s w count tenant run drawn
    have hrun : run = _ := run_allocate s length count tenant w
    refine ⟨by rw [hrun], by rw [hrun], by simp [hrun], ?_⟩
    intro i hi token
    have htoken : token = (s.random.take (w.drawn + i * length) length).map Char.toLower :=
      congrArg (List.map Char.toLower) (s.random.take_drop_take w.drawn length hi)
    refine ⟨?_, by simp [htoken], ?_⟩
    · rw [hrun, htoken, List.getElem?_map, List.getElem?_range hi]
      rfl
    · intro halphabet c hc
      obtain ⟨d, hd, rfl⟩ := List.mem_map.1 hc
      exact toLower_mem_tokenAlphabet (halphabet d (List.mem_of_mem_drop (List.mem_of_mem_take hd)))
  · intro s₁ s₂ w₁ w₂ count₁ count₂ tenant₁ tenant₂ a b ha hb
    obtain ⟨token₁, hlength₁, rfl⟩ := exists_of_mem_allocate ha
    obtain ⟨token₂, hlength₂, rfl⟩ := exists_of_mem_allocate hb
    have hstart := ofToken_prefix_iff (hlength₁.trans hlength₂.symm) tenant₁ tenant₂
    rw [← take_ofToken hlength₁ tenant₁, ← take_ofToken hlength₂ tenant₂] at hstart
    refine ⟨hstart, ?_⟩
    intro hne he
    have hstart' := ofToken_prefix_iff (hlength₂.trans hlength₁.symm) tenant₂ tenant₁
    rw [he] at hstart hstart'
    exact hne ((hstart.1 (List.prefix_refl _)).2.eq_of_length_le
      (hstart'.1 (List.prefix_refl _)).2.length_le)

/-- Two tenants whose ids begin alike, and who are given the same token. -/
theorem kin_shadowed_by_same_token :
    let s := Specimen.surroundings fun i => if i % 2 = 0 then 'Q' else '7'
    let ids (tenant : String) := ((allocate 4 2 tenant).run s {}).value
    let drawn := s.random.take 0 (2 * 4)
    (1 < 2 ∧ (ids "a-1")[1]? = some "q7q7a1") ∧
    ((∀ c ∈ drawn, c ∈ RandomSource.alphabet) ∧
      ∀ c ∈ ((drawn.drop (1 * 4)).take 4).map Char.toLower, c ∈ tokenAlphabet) ∧
    ("q7q7a1" ∈ ids "a-1" ∧ "q7q7a1b" ∈ ids "a1-b" ∧ "q7q7a1".toList <+: "q7q7a1b".toList) ∧
    ("a-1".toList.filter (· ≠ '-') ≠ "a1-b".toList.filter (· ≠ '-') ∧ "q7q7a1" ≠ "q7q7a1b") := by
  intro s ids drawn
  obtain ⟨hdraws, hshadow⟩ := ids_shadow_only_kin 4
  obtain ⟨-, -, -, hid⟩ := hdraws s {} 2 "a-1"
  obtain ⟨hsecond, -, hlower⟩ := hid 1 (by decide)
  have hall : drawn.all (· ∈ RandomSource.alphabet) = true := by decide +kernel
  have hdrawn : ∀ c ∈ drawn, c ∈ RandomSource.alphabet :=
    fun c hc => of_decide_eq_true (List.all_eq_true.1 hall c hc)
  have ha : "q7q7a1" ∈ ids "a-1" := by decide +kernel
  have hb : "q7q7a1b" ∈ ids "a1-b" := by decide +kernel
  have hne : "a-1".toList.filter (· ≠ '-') ≠ "a1-b".toList.filter (· ≠ '-') := by decide +kernel
  obtain ⟨hstart, hdiffer⟩ := hshadow s s {} {} 2 2 "a-1" "a1-b" _ _ ha hb
  refine ⟨⟨by decide, hsecond.trans ?_⟩, ⟨hdrawn, hlower hdrawn⟩,
    ⟨ha, hb, hstart.2 ⟨by decide, by decide +kernel⟩⟩, hne, hdiffer hne⟩
  decide +kernel

end PublicId

end TenantEndpoints
