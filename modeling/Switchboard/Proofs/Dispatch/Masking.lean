/-
# Switchboard.Proofs.Dispatch.Masking -- what the call of a function depends on

A function of the application gets the state of the application and arguments, and among these may
be the headers of the request with the id that was generated for it. A mask leaves out headers
that are not to matter; arguments and messages are alike if they are equal once they are masked.
A function is blind under a mask if it ends in the same way for like arguments and any two states
(`Function.Blind`). Whatever depends on its arguments alone is blind under the mask that leaves
nothing out (`Function.Pure.blind`).

Blindness goes through binding (`ArgumentResolver.bindAll_congr`) to whole calls
(`Function.invoke_congr`), since the library itself looks at no header but the session and the
method of the notifications.
-/

import Switchboard.Handler.Binding
import Switchboard.Proofs.Recovery.Memory

namespace Switchboard

/-! ## Masks -/

/-- The headers without the identity of the message. -/
def Headers.withoutId (h : Headers) : Headers := ⟨h.fields.erase HeaderKey.messageId⟩

/-- A way to leave out headers, except those that the library looks at. -/
structure HeaderMask where
  /-- The headers that are left. -/
  apply : Headers → Headers
  /-- The session is left. -/
  sessionId? : ∀ h, (apply h).sessionId? = h.sessionId?
  /-- The method of the notifications is left. -/
  subscribeMethod? : ∀ h, (apply h).subscribeMethod? = h.subscribeMethod?

namespace HeaderMask

/-- Leaves nothing out. -/
def nothing : HeaderMask := ⟨id, fun _ => rfl, fun _ => rfl⟩

theorem text?_withoutId {key : String} (hkey : key ≠ HeaderKey.messageId) (h : Headers) :
    h.withoutId.text? key = h.text? key := by
  simp [Headers.text?, Headers.get?, Headers.withoutId, hkey]

/-- Leaves out the identity of the message. -/
def messageId : HeaderMask where
  apply := Headers.withoutId
  sessionId? := text?_withoutId (by decide)
  subscribeMethod? := text?_withoutId (by decide)

variable (μ : HeaderMask)

/-- Masks the headers that are an argument. -/
def argument : Argument → Argument
  | .headers h => .headers (μ.apply h)
  | a => a

/-- Masks the headers of a message. -/
def message {α : Type} (m : Message α) : Message α := ⟨m.payload, μ.apply m.headers⟩

theorem argument_nothing : nothing.argument = id := by
  funext a
  cases a <;> rfl

section Alike

variable {μ} {α : Type} {m n : Message α} (h : μ.message m = μ.message n)

include h

theorem payload_congr : m.payload = n.payload := (Message.mk.inj h).1

theorem headers_congr : μ.apply m.headers = μ.apply n.headers := (Message.mk.inj h).2

theorem sessionId?_congr : m.headers.sessionId? = n.headers.sessionId? := by
  rw [← μ.sessionId? m.headers, headers_congr h, μ.sessionId?]

theorem subscribeMethod?_congr : m.headers.subscribeMethod? = n.headers.subscribeMethod? := by
  rw [← μ.subscribeMethod? m.headers, headers_congr h, μ.subscribeMethod?]

end Alike

end HeaderMask

/-! ## Functions -/

/-- Attempts with equal images end in the same way. -/
theorem Attempt.cases_of_map_eq {ε α β : Type} {f : α → β} {a b : Attempt ε α}
    (h : a.map f = b.map f) :
    (∃ v w, a = .value v ∧ b = .value w ∧ f v = f w) ∨
    (∃ e, a = .failed e ∧ b = .failed e) ∨ ∃ p, a = .panicked p ∧ b = .panicked p := by
  cases a with
  | value v =>
      cases b with
      | value w => exact .inl ⟨v, w, rfl, rfl, Attempt.value.inj h⟩
      | failed e => cases h
      | panicked p => cases h
  | failed e =>
      cases b <;> cases h
      exact .inr (.inl ⟨e, rfl, rfl⟩)
  | panicked p =>
      cases b <;> cases h
      exact .inr (.inr ⟨p, rfl, rfl⟩)

namespace Function

variable {σ : Type}

/-- How the function ends depends on its arguments alone. -/
def Pure (f : Function σ) : Prop := ∀ args s t, (f.run args s).1 = (f.run args t).1

/-- How a call ends is the same for arguments that are equal once they are masked. -/
def Blind (μ : HeaderMask) (f : Function σ) : Prop :=
  ∀ (params : List Param) (as bs : List Argument) (s t : σ),
    as.map μ.argument = bs.map μ.argument → (f.call params as s).1 = (f.call params bs t).1

theorem Pure.blind {f : Function σ} (h : f.Pure) : f.Blind .nothing := by
  intro params as bs s t hargs
  have hsame : as = bs := by simpa [HeaderMask.argument_nothing] using hargs
  subst hsame
  unfold call
  cases f.takes.read (params.zip as) with
  | value args =>
      show (f.run args s).1.bind _ = (f.run args t).1.bind _
      rw [h args s t]
  | failed e => rfl
  | panicked p => rfl

/-- A call of the function can fail in this way. -/
def Fails (f : Function σ) (e : Failure) : Prop :=
  ∃ params arguments s, (f.call params arguments s).1 = .failed e

end Function

/-! ## Binding -/

namespace ArgumentResolver

variable {σ : Type}

/-- What the resolver finds depends on the parameter and the request alone. -/
def Pure (r : ArgumentResolver σ) : Prop :=
  ∀ p m s t, (r.resolve p m s).1 = (r.resolve p m t).1

/-- What the resolver finds is the same, once it is masked, for requests that are. -/
def Blind (μ : HeaderMask) (r : ArgumentResolver σ) : Prop :=
  ∀ p m n s t, μ.message m = μ.message n →
    (r.resolve p m s).1.map μ.argument = (r.resolve p n t).1.map μ.argument

theorem Pure.blind {r : ArgumentResolver σ} (h : r.Pure) : r.Blind .nothing := by
  intro p m n s t hmn
  have hsame : m = n := hmn
  rw [hsame, h p n s t]

/-- The library's own resolvers look at the payload, the session and the method of the
notifications, and hand the headers on as a whole. -/
theorem blind_standard (μ : HeaderMask) :
    ∀ r ∈ (standard : List (ArgumentResolver σ)), r.Blind μ := by
  intro r hr p m n s t hmn
  simp only [standard, List.mem_cons, List.not_mem_nil, or_false] at hr
  rcases hr with rfl | rfl | rfl
  · have hfound : μ.argument (headerArgument p m) = μ.argument (headerArgument p n) := by
      unfold headerArgument
      split
      · rw [HeaderMask.sessionId?_congr hmn]
      · rw [HeaderMask.subscribeMethod?_congr hmn]
      · exact congrArg Argument.headers (HeaderMask.headers_congr hmn)
    exact congrArg Attempt.value hfound
  · show Attempt.value (μ.argument (.requestId m.payload.id)) = _
    rw [HeaderMask.payload_congr hmn]
    rfl
  · have hfound : paramsArgument p m = paramsArgument p n := by
      unfold paramsArgument
      rw [HeaderMask.payload_congr hmn]
    show (Attempt.ofExcept (paramsArgument p m)).map _ = _
    rw [hfound]
    rfl

section Binding

variable {μ : HeaderMask} {rs : List (ArgumentResolver σ)} {m n : RequestMessage}
  (hrs : ∀ r ∈ rs, r.Blind μ) (hmn : μ.message m = μ.message n)

include hrs hmn

theorem bind_congr (p : Param) (s t : σ) :
    (bind rs m p s).1.map μ.argument = (bind rs n p t).1.map μ.argument := by
  unfold bind
  cases hfind : rs.find? fun r => r.supports p with
  | none => rfl
  | some r => exact hrs r (List.mem_of_find?_eq_some hfind) p m n s t hmn

theorem bindWith_congr (provided : List Argument) (p : Param) (s t : σ) :
    (bindWith rs provided m p s).1.map μ.argument =
      (bindWith rs provided n p t).1.map μ.argument := by
  unfold bindWith
  cases provided.find? fun a => a.suits p.source with
  | none => exact bind_congr hrs hmn p s t
  | some a => rfl

theorem bindAll_congr (provided : List Argument) (ps : List Param) (s t : σ) :
    (bindAll rs provided m ps s).1.map (List.map μ.argument) =
      (bindAll rs provided n ps t).1.map (List.map μ.argument) := by
  induction ps generalizing s t with
  | nil => rfl
  | cons p ps ih =>
      have hfirst := bindWith_congr hrs hmn provided p s t
      unfold bindAll
      cases hm : bindWith rs provided m p s with
      | mk first s₁ =>
          cases hn : bindWith rs provided n p t with
          | mk first' t₁ =>
              rw [hm, hn] at hfirst
              -- The parameter is bound both times, or binding ends both times in the same way.
              rcases Attempt.cases_of_map_eq hfirst with
                ⟨a, b, rfl, rfl, hab⟩ | ⟨e, rfl, rfl⟩ | ⟨q, rfl, rfl⟩
              · show ((bindAll rs provided m ps s₁).1.map _).map _ =
                  ((bindAll rs provided n ps t₁).1.map _).map _
                rcases Attempt.cases_of_map_eq (ih s₁ t₁) with
                  ⟨as, bs, has, hbs, hrest⟩ | ⟨e, he, he'⟩ | ⟨q, hq, hq'⟩
                · rw [has, hbs]
                  simp [Attempt.map, hab, hrest]
                · rw [he, he']
                  rfl
                · rw [hq, hq']
                  rfl
              · rfl
              · rfl

end Binding

end ArgumentResolver

/-! ## Calls -/

namespace Failure

theorem kinds_ofPanic (p : Panic) : ∀ k ∈ (ofPanic p).kinds, k ∈ ErrorKind.builtin := by
  intro k hk
  rw [List.mem_singleton.1 hk]
  show ErrorKind.panic ∈ ErrorKind.builtin
  decide

theorem kinds_ofBusError (e : BusError) : ∀ k ∈ (ofBusError e).kinds, k ∈ ErrorKind.builtin := by
  intro k hk
  rcases List.mem_cons.1 hk with rfl | hk
  · show kindOf e ∈ ErrorKind.builtin
    cases e <;> simp [kindOf, ErrorKind.builtin]
  · -- The reason beneath is of the kind `runtime`.
    obtain ⟨l, hl, rfl⟩ := List.mem_map.1 hk
    obtain ⟨reason, _, rfl⟩ := List.mem_map.1 hl
    show ErrorKind.runtime ∈ ErrorKind.builtin
    decide

end Failure

namespace Function

variable {σ : Type} {μ : HeaderMask} {f : Function σ} {rs : List (ArgumentResolver σ)}
  {m n : RequestMessage}

/-- A blind function that gets its arguments by blind resolvers gives the same for like requests,
whatever the state. -/
theorem invoke_congr (hf : f.Blind μ) (hrs : ∀ r ∈ rs, r.Blind μ)
    (hmn : μ.message m = μ.message n) (params : List Param) (provided : List Argument) (s t : σ) :
    (f.invoke params rs provided m s).1 = (f.invoke params rs provided n t).1 := by
  have hbound := ArgumentResolver.bindAll_congr hrs hmn provided params s t
  unfold invoke
  cases hm : ArgumentResolver.bindAll rs provided m params s with
  | mk bound s₁ =>
      cases hn : ArgumentResolver.bindAll rs provided n params t with
      | mk bound' t₁ =>
          rw [hm, hn] at hbound
          rcases Attempt.cases_of_map_eq hbound with
            ⟨as, bs, rfl, rfl, hargs⟩ | ⟨e, rfl, rfl⟩ | ⟨p, rfl, rfl⟩
          · show (f.call params as s₁).1.guarded = (f.call params bs t₁).1.guarded
            rw [hf params as bs s₁ t₁ hargs]
          · rfl
          · rfl

/-- A call fails by the function's own doing or with a failure of the library, whose kinds are
the library's own. -/
theorem kinds_of_invoke {params : List Param} {provided : List Argument} {s : σ} {e : Failure}
    (h : (f.invoke params rs provided m s).1 = .error e) :
    f.Fails e ∨ ∀ k ∈ e.kinds, k ∈ ErrorKind.builtin := by
  unfold invoke at h
  split at h
  · next arguments s₁ _ =>
      have hcall : (f.call params arguments s₁).1.guarded = .error e := h
      cases hresult : (f.call params arguments s₁).1 with
      | value v =>
          rw [hresult] at hcall
          cases hcall
      | failed e' =>
          rw [hresult] at hcall
          cases hcall
          exact .inl ⟨params, arguments, s₁, hresult⟩
      | panicked p =>
          rw [hresult] at hcall
          cases hcall
          exact .inr (Failure.kinds_ofPanic p)
  · cases h
    exact .inr (Failure.kinds_ofBusError _)
  · cases h
    exact .inr (Failure.kinds_ofPanic _)

end Function

end Switchboard
