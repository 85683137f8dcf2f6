import RbgPlanner.Controller.Faults
import RbgPlanner.Controller.Fleet

/-!
# Bindings and the finalizer

The operator holds its finalizer on an AutoScaler before it creates the binding,
and releases it after it has deleted the binding or found none. Passes on other
AutoScalers run in between, requests fail, passes stop, and users submit, edit
and delete AutoScalers.
-/

namespace RbgPlanner.Properties.OrphanedBindings

open Base Controller
open Kube (Tells TellsOk)

/-! ## Bindings and their AutoScalers -/

/-- The labels of the binding of the AutoScaler at `key`. -/
def bindingLabels (key : NamespacedName) : List (String × String) :=
  [("app.kubernetes.io/managed-by", "rbg-planner-operator"),
   ("inference-extension.rolebasedgroup.io/as-name", key.name),
   ("inference-extension.rolebasedgroup.io/as-namespace", key.namespaceName)]

/-- The label the operator puts on the bindings it creates. -/
def OperatorMade (crb : ClusterRoleBinding) : Prop :=
  ("app.kubernetes.io/managed-by", "rbg-planner-operator") ∈ crb.metadata.labels

/-- The AutoScaler at `key` is there and carries the finalizer. -/
def Carries (s : Cluster) (key : NamespacedName) : Prop :=
  ∃ ras : AutoScaler, s.objects .autoScaler key = some ras ∧ ras.containsFinalizer = true

/-- Nothing is bound under the labels of the AutoScaler at `key`. -/
def Unbound (s : Cluster) (key : NamespacedName) : Prop :=
  ∀ (place : NamespacedName) (crb : ClusterRoleBinding),
    s.objects .clusterRoleBinding place = some crb → crb.metadata.labels ≠ bindingLabels key

/-- A binding as the operator creates it for the AutoScaler at `key`. -/
structure MadeFor (key : NamespacedName) (crb : ClusterRoleBinding) : Prop where
  place : crb.metadata.key = bindingKey key
  labels : crb.metadata.labels = bindingLabels key
  finalizers : crb.metadata.finalizers = []

/-- Every binding of the operator is for an AutoScaler that carries the finalizer. -/
def Tended (s : Cluster) : Prop :=
  ∀ (place : NamespacedName) (crb : ClusterRoleBinding),
    s.objects .clusterRoleBinding place = some crb → OperatorMade crb →
      ∃ key, MadeFor key crb ∧ Carries s key

/-- Users submit, edit and delete AutoScalers and leave the finalizer to the
operator. Other components change other objects, and put the operator's label
on no binding. -/
inductive Administers (s : Cluster) : Cluster → Prop
  | submit (ras : AutoScaler) : Administers s (s.create .autoScaler ras).2
  | edit {ras : AutoScaler} (hkeeps : Carries s ras.metadata.key → ras.containsFinalizer = true) :
      Administers s (s.update .autoScaler ras).2
  | requestDeletion (now : String) (key : NamespacedName) :
      Administers s (s.delete now .autoScaler key).2
  | elsewhere {next : Cluster} (hscalers : next.objects .autoScaler = s.objects .autoScaler)
      (hbindings : ∀ (place : NamespacedName) (crb : ClusterRoleBinding),
        next.objects .clusterRoleBinding place = some crb → OperatorMade crb →
          s.objects .clusterRoleBinding place = some crb) : Administers s next

theorem bindingLabels_injective : Function.Injective bindingLabels := by
  intro a b h
  simp only [bindingLabels, List.cons.injEq, Prod.mk.injEq, true_and, and_true] at h
  cases a
  cases b
  simp_all

variable {s s' : Cluster} {key : NamespacedName} {now : String}

theorem operatorMade_of_labels {crb : ClusterRoleBinding}
    (h : crb.metadata.labels = bindingLabels key) : OperatorMade crb := by
  rw [OperatorMade, h]
  exact .head _

/-! ## What one request can change -/

/-- A request that takes the finalizer off the AutoScaler at `key`. -/
def Releases (key : NamespacedName) : KubeOp → Prop
  | .update .autoScaler obj => obj.metadata.key = key ∧ obj.containsFinalizer = false
  | _ => False

/-- Storing an AutoScaler that carries the finalizer. -/
theorem carries_put {ras : AutoScaler} (hkey : ras.metadata.key = key)
    (hfin : ras.containsFinalizer = true) : Carries (s.put .autoScaler ras) key := by
  subst hkey
  exact ⟨ras, ApiServer.put_same, hfin⟩

theorem finalizers_ne_nil {ras : AutoScaler} (hfin : ras.containsFinalizer = true) :
    ras.metadata.finalizers.isEmpty = false := by
  rw [List.isEmpty_eq_false_iff]
  intro hnil
  simp [AutoScaler.containsFinalizer, hnil] at hfin

theorem carries_update {obj : AutoScaler} (hs : Carries s key)
    (hobj : obj.metadata.key = key → obj.containsFinalizer = true) :
    Carries (s.update .autoScaler obj).2 key := by
  obtain ⟨ras, hras, hfin⟩ := hs
  by_cases hkey : obj.metadata.key = key
  · subst hkey
    have hstored : s.objects .autoScaler (@ApiServer.keyOf _ Resource _ .autoScaler obj) =
      some ras := hras
    have hheld := finalizers_ne_nil (hobj rfl)
    simp only [ApiServer.update, hstored]
    split_ifs with hversion hgone
    · exact ⟨ras, hras, hfin⟩
    · rw [Bool.and_eq_true] at hgone
      cases hheld.symm.trans hgone.2
    · exact carries_put rfl (hobj rfl)
  · refine ⟨ras, (ApiServer.update_frame ?_).trans hras, hfin⟩
    rintro ⟨-, rfl⟩
    exact hkey rfl

theorem carries_delete (hs : Carries s key) (place : NamespacedName) :
    Carries (s.delete now .autoScaler place).2 key := by
  obtain ⟨ras, hras, hfin⟩ := hs
  by_cases hkey : key = place
  · subst hkey
    have hheld := finalizers_ne_nil hfin
    simp only [ApiServer.delete, hras]
    split_ifs with hempty hmarked
    · cases hheld.symm.trans hempty
    · exact ⟨ras, hras, hfin⟩
    · exact carries_put (ApiServer.keyOf_stored hras) hfin
  · exact ⟨ras, (ApiServer.delete_frame fun h => hkey h.2).trans hras, hfin⟩

theorem carries_updateStatus (hs : Carries s key) (obj : AutoScaler) :
    Carries (updateStatus s obj).2 key := by
  obtain ⟨ras, hras, hfin⟩ := hs
  by_cases hkey : obj.metadata.key = key
  · subst hkey
    simp only [updateStatus, hras]
    split_ifs
    · exact ⟨ras, hras, hfin⟩
    · exact carries_put (ApiServer.keyOf_stored hras) hfin
  · exact ⟨ras, (updateStatus_frame fun h => hkey h.2.symm).trans hras, hfin⟩

theorem carries_create (hs : Carries s key) (obj : AutoScaler) :
    Carries (s.create .autoScaler obj).2 key := by
  obtain ⟨ras, hras, hfin⟩ := hs
  refine ⟨ras, ?_, hfin⟩
  unfold ApiServer.create
  split
  · exact hras
  · next hnone =>
      refine (ApiServer.put_of_ne fun h => ?_).trans hras
      rw [ApiServer.keyOf_created] at h
      rw [← h.2, hras] at hnone
      cases hnone

/-- Only a release takes the finalizer off. -/
theorem carries_serve {op : KubeOp} (hs : Carries s key) (hop : ¬ Releases key op) :
    Carries (serve now op s).2 key := by
  by_cases htarget : op.target = some (.autoScaler, key)
  · cases op with
    | get _ _ => cases htarget
    | event _ _ _ => cases htarget
    | create k obj =>
        cases htarget
        exact carries_create hs obj
    | update k obj =>
        cases htarget
        refine carries_update hs fun hkey => ?_
        simpa [Releases, hkey] using hop
    | updateStatus obj => exact carries_updateStatus hs obj
    | delete k place =>
        cases htarget
        exact carries_delete hs _
  · obtain ⟨ras, hras, hfin⟩ := hs
    exact ⟨ras, (serve_frame htarget).trans hras, hfin⟩

/-- Where a stored binding comes from: it was there with the same labels and
finalizers, or the request created it. -/
theorem binding_serve {op : KubeOp} (hop : ∀ obj, op ≠ .update .clusterRoleBinding obj)
    {place : NamespacedName} {crb : ClusterRoleBinding}
    (h : (serve now op s).2.objects .clusterRoleBinding place = some crb) :
    (∃ old : ClusterRoleBinding, s.objects .clusterRoleBinding place = some old ∧
        crb.metadata.key = old.metadata.key ∧ crb.metadata.labels = old.metadata.labels ∧
        crb.metadata.finalizers = old.metadata.finalizers) ∨
      ∃ obj : ClusterRoleBinding, op = .create .clusterRoleBinding obj ∧
        crb.metadata.key = obj.metadata.key ∧ crb.metadata.labels = obj.metadata.labels ∧
        crb.metadata.finalizers = obj.metadata.finalizers := by
  by_cases htarget : op.target = some (.clusterRoleBinding, place)
  · cases op with
    | get _ _ => cases htarget
    | event _ _ _ => cases htarget
    | updateStatus _ => cases htarget
    | update k obj =>
        cases htarget
        exact absurd rfl (hop obj)
    | create k obj =>
        cases htarget
        rcases ApiServer.create_same h with h | rfl
        · exact .inl ⟨crb, h, rfl, rfl, rfl⟩
        · exact .inr ⟨obj, rfl, rfl, rfl, rfl⟩
    | delete k _ =>
        cases htarget
        obtain ⟨-, stored, hstored, -, rfl | rfl⟩ := ApiServer.delete_same h
        · exact .inl ⟨_, hstored, rfl, rfl, rfl⟩
        · exact .inl ⟨_, hstored, rfl, rfl, rfl⟩
  · rw [serve_frame htarget] at h
    exact .inl ⟨crb, h, rfl, rfl, rfl⟩

/-- A request keeps the bindings tended when it creates a binding only for an
AutoScaler that carries the finalizer and releases only what is not bound. -/
theorem tended_serve {op : KubeOp} (hs : Tended s)
    (hupdate : ∀ obj, op ≠ .update .clusterRoleBinding obj)
    (hcreate : ∀ obj, op = .create .clusterRoleBinding obj →
      ∃ key, MadeFor key obj ∧ Carries s key)
    (hrelease : ∀ key, Releases key op → Unbound s key) : Tended (serve now op s).2 := by
  intro place crb hcrb hmade
  rcases binding_serve hupdate hcrb with
    ⟨old, hold, hkey, hlabels, hfinalizers⟩ | ⟨obj, rfl, hkey, hlabels, hfinalizers⟩
  · rw [OperatorMade, hlabels] at hmade
    obtain ⟨key, hfor, hcarries⟩ := hs place old hold hmade
    refine ⟨key, ⟨hkey.trans hfor.place, hlabels.trans hfor.labels,
      hfinalizers.trans hfor.finalizers⟩, carries_serve hcarries fun hreleases => ?_⟩
    exact hrelease key hreleases place old hold hfor.labels
  · obtain ⟨key, hfor, hcarries⟩ := hcreate obj rfl
    exact ⟨key, ⟨hkey.trans hfor.place, hlabels.trans hfor.labels,
      hfinalizers.trans hfor.finalizers⟩, carries_serve hcarries nofun⟩

theorem unbound_serve {op : KubeOp} (hs : Unbound s key)
    (hupdate : ∀ obj, op ≠ .update .clusterRoleBinding obj)
    (hcreate : ∀ obj : ClusterRoleBinding, op = .create .clusterRoleBinding obj →
      obj.metadata.labels ≠ bindingLabels key) : Unbound (serve now op s).2 key := by
  intro place crb hcrb
  rcases binding_serve hupdate hcrb with ⟨old, hold, -, hlabels, -⟩ | ⟨obj, rfl, -, hlabels, -⟩
  · rw [hlabels]
    exact hs place old hold
  · rw [hlabels]
    exact hcreate obj rfl

/-! ## What a pass knows -/

/-- An answer that shows the finalizer on the AutoScaler at `key`. -/
inductive Shows (key : NamespacedName) : KubeEvent → Prop
  | read {ras : AutoScaler} (hfin : ras.containsFinalizer = true) :
      Shows key ⟨.get .autoScaler key, .ok ras⟩
  | held {obj ras : AutoScaler} (hkey : obj.metadata.key = key)
      (hfin : obj.containsFinalizer = true) : Shows key ⟨.update .autoScaler obj, .ok ras⟩

/-- An answer that shows that there is no binding of the AutoScaler at `key`. -/
inductive Clears (key : NamespacedName) : KubeEvent → Prop
  | absent {e : ApiError} (hreason : e.reason = .notFound) :
      Clears key ⟨.get .clusterRoleBinding (bindingKey key), .error e⟩
  | deleted : Clears key ⟨.delete .clusterRoleBinding (bindingKey key), .ok ()⟩

/-- The finalizer was seen, and the pass has not released it. -/
def Holds (key : NamespacedName) (h : KubeHistory) : Prop :=
  (∃ e ∈ h, Shows key e) ∧ ∀ e ∈ h, ¬ Releases key e.1

/-- No binding was seen, and the pass has created none. -/
def Cleared (key : NamespacedName) (h : KubeHistory) : Prop :=
  (∃ e ∈ h, Clears key e) ∧ ∀ e ∈ h, ∀ obj, e.1 ≠ .create .clusterRoleBinding obj

theorem not_holds_nil : ¬ Holds key [] := by
  rintro ⟨⟨e, he, -⟩, -⟩
  cases he

theorem not_cleared_nil : ¬ Cleared key [] := by
  rintro ⟨⟨e, he, -⟩, -⟩
  cases he

/-- What the history of a pass says about the cluster. -/
structure Knows (key : NamespacedName) (h : KubeHistory) (s : Cluster) : Prop where
  carries : Holds key h → Carries s key
  unbound : Cleared key h → Unbound s key

/-- A pass creates its binding while it holds the finalizer, and releases the
finalizer when the binding is cleared. -/
structure Orderly (key : NamespacedName) (h : KubeHistory) (e : KubeEvent) : Prop where
  updates : ∀ obj, e.1 ≠ .update .clusterRoleBinding obj
  creates : ∀ obj, e.1 = .create .clusterRoleBinding obj → MadeFor key obj ∧ Holds key h
  releases : ∀ other, Releases other e.1 → other = key ∧ Cleared key h

variable {h : KubeHistory} {e : KubeEvent}

/-- An accepted update puts the finalizer on. -/
theorem carries_of_update {obj ras : AutoScaler}
    (hok : (s.update .autoScaler obj).1 = .ok ras) (hfin : obj.containsFinalizer = true) :
    Carries (s.update .autoScaler obj).2 obj.metadata.key := by
  unfold ApiServer.update at hok ⊢
  cases hstored : s.objects .autoScaler (@ApiServer.keyOf _ Resource _ .autoScaler obj) with
  | none =>
      rw [hstored] at hok
      cases hok
  | some stored =>
      rw [hstored] at hok
      dsimp only at hok ⊢
      split_ifs at hok ⊢ with hversion hgone
      · rw [Bool.and_eq_true] at hgone
        cases (finalizers_ne_nil hfin).symm.trans hgone.2
      · exact carries_put rfl hfin

/-- What was shown just now is so. -/
theorem carries_of_shows (hshows : Shows key e) (ha : Faulty e.1 s e.2 s') : Carries s' key := by
  cases hshows with
  | read hfin =>
      rcases ha.elim with ⟨now, hanswer, rfl⟩ | ⟨_, -, hfails, -⟩
      · exact ⟨_, ApiServer.objects_of_get hanswer.symm, hfin⟩
      · cases hfails
  | held hkey hfin =>
      rcases ha.elim with ⟨now, hanswer, rfl⟩ | ⟨_, -, hfails, -⟩
      · rw [← hkey]
        exact carries_of_update hanswer.symm hfin
      · cases hfails

/-- A binding with the labels of `key` is where it belongs, and nothing holds it. -/
theorem Tended.madeFor (hs : Tended s) {place : NamespacedName} {crb : ClusterRoleBinding}
    (hcrb : s.objects .clusterRoleBinding place = some crb)
    (hlabels : crb.metadata.labels = bindingLabels key) :
    place = bindingKey key ∧ MadeFor key crb := by
  obtain ⟨owner, hfor, -⟩ := hs place crb hcrb (operatorMade_of_labels hlabels)
  obtain rfl := bindingLabels_injective (hfor.labels.symm.trans hlabels)
  have hplace : crb.metadata.key = place := ApiServer.keyOf_stored hcrb
  exact ⟨hplace.symm.trans hfor.place, hfor⟩

theorem unbound_of_clears (hs : Tended s) (hclears : Clears key e) (ha : Faulty e.1 s e.2 s') :
    Unbound s' key := by
  cases hclears with
  | absent hreason =>
      rcases ha.elim with ⟨now, hanswer, rfl⟩ | ⟨e', hother, hfails, -⟩
      · intro place crb hcrb hlabels
        obtain ⟨rfl, -⟩ := hs.madeFor hcrb hlabels
        cases (ApiServer.objects_of_get_error hanswer.symm).symm.trans hcrb
      · obtain rfl := Except.error.inj hfails
        cases hother.symm.trans hreason
  | deleted =>
      rcases ha.elim with ⟨now, hanswer, rfl⟩ | ⟨_, -, hfails, -⟩
      · intro place crb hcrb hlabels
        have hupdate : ∀ obj, KubeOp.delete .clusterRoleBinding (bindingKey key) ≠
            .update .clusterRoleBinding obj := fun _ h => by cases h
        rcases binding_serve hupdate hcrb with ⟨old, hold, -, hsame, -⟩ | ⟨_, hcreate, -⟩
        · obtain ⟨rfl, hfor⟩ := hs.madeFor hold (hsame.symm.trans hlabels)
          obtain ⟨-, stored, hstored, hheld, -⟩ := ApiServer.delete_same hcrb
          obtain rfl := Option.some.inj (hold.symm.trans hstored)
          cases (congrArg List.isEmpty hfor.finalizers).symm.trans hheld
        · cases hcreate
      · cases hfails

/-! ## One step -/

/-- Finalizers stay, and the operator's bindings were there before. -/
structure Tolerates (s s' : Cluster) : Prop where
  carries : ∀ key, Carries s key → Carries s' key
  bindings : ∀ (place : NamespacedName) (crb : ClusterRoleBinding),
    s'.objects .clusterRoleBinding place = some crb → OperatorMade crb →
      s.objects .clusterRoleBinding place = some crb

theorem Administers.tolerates (h : Administers s s') : Tolerates s s' := by
  cases h with
  | submit ras =>
      refine ⟨fun key hs => carries_create hs ras, fun place crb hcrb _ => ?_⟩
      rwa [ApiServer.create_frame (by simp)] at hcrb
  | edit hkeeps =>
      refine ⟨fun key hs => carries_update hs ?_, fun place crb hcrb _ => ?_⟩
      · rintro rfl
        exact hkeeps hs
      · rwa [ApiServer.update_frame (by simp)] at hcrb
  | requestDeletion now key =>
      refine ⟨fun other hs => carries_delete hs key, fun place crb hcrb _ => ?_⟩
      rwa [ApiServer.delete_frame (by simp)] at hcrb
  | elsewhere hscalers hbindings =>
      refine ⟨fun key hs => ?_, hbindings⟩
      obtain ⟨ras, hras, hfin⟩ := hs
      exact ⟨ras, by rw [hscalers, hras], hfin⟩

theorem Tolerates.tended (h : Tolerates s s') (hs : Tended s) : Tended s' := by
  intro place crb hcrb hmade
  obtain ⟨key, hfor, hcarries⟩ := hs place crb (h.bindings place crb hcrb hmade) hmade
  exact ⟨key, hfor, h.carries key hcarries⟩

theorem Tolerates.knows (h' : Tolerates s s') (hknows : Knows key h s) : Knows key h s' := by
  refine ⟨fun hholds => h'.carries key (hknows.carries hholds), ?_⟩
  intro hcleared place crb hcrb hlabels
  have hstored := h'.bindings place crb hcrb (operatorMade_of_labels hlabels)
  exact hknows.unbound hcleared place crb hstored hlabels

/-- The answer to an orderly request. -/
theorem acts_tended (hs : Tended s) (hknows : Knows key h s) (horderly : Orderly key h e)
    (ha : Faulty e.1 s e.2 s') : Tended s' := by
  rcases ha.state with rfl | ⟨now, rfl⟩
  · exact hs
  · apply tended_serve hs horderly.updates
    · intro obj hobj
      obtain ⟨hfor, hholds⟩ := horderly.creates obj hobj
      exact ⟨key, hfor, hknows.carries hholds⟩
    · intro other hreleases
      obtain ⟨rfl, hcleared⟩ := horderly.releases other hreleases
      exact hknows.unbound hcleared

/-- The pass itself knows more, or still knows what it knew. -/
theorem acts_knows (hs : Tended s) (hknows : Knows key h s) (horderly : Orderly key h e)
    (ha : Faulty e.1 s e.2 s') : Knows key (h ++ [e]) s' := by
  constructor
  · rintro ⟨⟨shown, hmem, hshows⟩, hkept⟩
    rcases List.mem_append.mp hmem with hmem | hmem
    · have hcarries : Carries s key :=
        hknows.carries ⟨⟨shown, hmem, hshows⟩, fun e he => hkept e (List.mem_append_left _ he)⟩
      rcases ha.state with rfl | ⟨now, rfl⟩
      · exact hcarries
      · exact carries_serve hcarries (hkept e (List.mem_append_right _ (List.mem_singleton_self e)))
    · obtain rfl := List.mem_singleton.mp hmem
      exact carries_of_shows hshows ha
  · rintro ⟨⟨shown, hmem, hclears⟩, hkept⟩
    rcases List.mem_append.mp hmem with hmem | hmem
    · have hunbound : Unbound s key :=
        hknows.unbound ⟨⟨shown, hmem, hclears⟩, fun e he => hkept e (List.mem_append_left _ he)⟩
      rcases ha.state with rfl | ⟨now, rfl⟩
      · exact hunbound
      · refine unbound_serve hunbound horderly.updates fun obj hobj => absurd hobj ?_
        exact hkept e (List.mem_append_right _ (List.mem_singleton_self e)) obj
    · obtain rfl := List.mem_singleton.mp hmem
      exact unbound_of_clears hs hclears ha

/-- What the passes on other AutoScalers know stays true. -/
theorem acts_others {other : NamespacedName} {h' : KubeHistory} (hne : other ≠ key)
    (horderly : Orderly key h e) (hknows : Knows other h' s) (ha : Faulty e.1 s e.2 s') :
    Knows other h' s' := by
  rcases ha.state with rfl | ⟨now, rfl⟩
  · exact hknows
  · constructor
    · intro hholds
      refine carries_serve (hknows.carries hholds) fun hreleases => ?_
      exact hne (horderly.releases other hreleases).1
    · intro hcleared
      refine unbound_serve (hknows.unbound hcleared) horderly.updates fun obj hobj => ?_
      rw [(horderly.creates obj hobj).1.labels]
      exact fun hlabels => hne (bindingLabels_injective hlabels.symm)

/-! ## The text of a pass -/

/-- A request that writes neither an AutoScaler nor a binding. -/
def Elsewhere (op : KubeOp) : Prop :=
  op.access ≠ .write .autoScaler ∧ op.access ≠ .write .clusterRoleBinding

/-- No request of the history writes an AutoScaler or a binding. -/
def Idle (h : KubeHistory) : Prop := ∀ e ∈ h, Elsewhere e.1

variable {t : KubeHistory}

theorem Elsewhere.not_releases {op : KubeOp} (hop : Elsewhere op) : ¬ Releases key op := by
  intro hreleases
  unfold Releases at hreleases
  split at hreleases
  · exact hop.1 rfl
  · exact hreleases

theorem Elsewhere.ne_create {op : KubeOp} (hop : Elsewhere op) (obj : ClusterRoleBinding) :
    op ≠ .create .clusterRoleBinding obj := by
  rintro rfl
  exact hop.2 rfl

theorem Elsewhere.orderly (he : Elsewhere e.1) : Orderly key h e where
  updates := by
    rintro obj hobj
    exact he.2 (congrArg KubeOp.access hobj)
  creates := fun obj hobj => absurd hobj (he.ne_create obj)
  releases := fun _ hreleases => absurd hreleases he.not_releases

theorem Idle.append (hh : Idle h) (ht : Idle t) : Idle (h ++ t) :=
  List.forall_mem_append.mpr ⟨hh, ht⟩

theorem Holds.append (hholds : Holds key h) (ht : Idle t) : Holds key (h ++ t) := by
  obtain ⟨⟨e, he, hshows⟩, hkept⟩ := hholds
  refine ⟨⟨e, List.mem_append_left _ he, hshows⟩, fun e' he' => ?_⟩
  rcases List.mem_append.mp he' with he' | he'
  · exact hkept e' he'
  · exact (ht e' he').not_releases

/-- A request that shows the finalizer, after requests elsewhere. -/
theorem Idle.holds (hh : Idle h) (hshows : Shows key e) (he : ¬ Releases key e.1) :
    Holds key (h ++ [e]) := by
  refine ⟨⟨e, List.mem_append_right _ (List.mem_singleton_self e), hshows⟩, fun e' he' => ?_⟩
  rcases List.mem_append.mp he' with he' | he'
  · exact (hh e' he').not_releases
  · rwa [List.mem_singleton.mp he']

theorem Idle.cleared (hh : Idle h) (hclears : Clears key e)
    (he : ∀ obj, e.1 ≠ .create .clusterRoleBinding obj) : Cleared key (h ++ [e]) := by
  refine ⟨⟨e, List.mem_append_right _ (List.mem_singleton_self e), hclears⟩, fun e' he' => ?_⟩
  rcases List.mem_append.mp he' with he' | he'
  · exact fun obj => (hh e' he').ne_create obj
  · rwa [List.mem_singleton.mp he']

/-- A part of a pass that writes neither AutoScalers nor bindings. -/
theorem tells_elsewhere {α : Type} {Q : α → Prop} {x : Kube α} {accesses : List Access}
    (hx : Kube.Asks (Within key accesses) Q x)
    (hothers : ∀ access ∈ accesses,
      access ≠ .write .autoScaler ∧ access ≠ .write .clusterRoleBinding) :
    Kube.Tells (Orderly key)
      (fun h' r => (∀ a, r = .ok a → Q a) ∧ ∃ t, h' = h ++ t ∧ Idle t) x h := by
  have hevents : ∀ op, Within key accesses op → Elsewhere op := fun op hop => hothers _ hop.2
  refine (Kube.Asks.tells hx (fun _ e he => (hevents e.1 he).orderly) h).mono ?_
  rintro h' answer ⟨hQ, t, rfl, ht⟩
  exact ⟨hQ, t, rfl, fun e he => hevents e.1 (ht e he)⟩

/-- The same for a part that has to succeed. -/
theorem tellsOk_elsewhere {α : Type} {Q : α → Prop} {x : Kube α} {accesses : List Access}
    (hx : Kube.Asks (Within key accesses) Q x)
    (hothers : ∀ access ∈ accesses,
      access ≠ .write .autoScaler ∧ access ≠ .write .clusterRoleBinding) :
    TellsOk (Orderly key) (fun h' a => Q a ∧ ∃ t, h' = h ++ t ∧ Idle t) x h :=
  (tells_elsewhere hx hothers).mono fun _ _ hr a ha => ⟨hr.1 a ha, hr.2⟩

section Functions

variable {ras : AutoScaler} (hkey : ras.metadata.key = key)
include hkey

/-- After the cleanup there is no binding of this AutoScaler. -/
theorem tells_cleanupClusterResources (hh : Idle h) :
    TellsOk (Orderly key) (fun h' _ => Cleared key h') (cleanupClusterResources ras) h := by
  have hname : clusterKey ras.bindingName = bindingKey key := by
    subst hkey
    rfl
  unfold cleanupClusterResources
  rw [hname]
  refine Kube.Tells.bind_attempt (Q := fun h' (answer : Except ApiError ClusterRoleBinding) =>
    (∀ crb, answer = .ok crb → crb.metadata.key = bindingKey key) ∧
      h' = h ++ [⟨.get .clusterRoleBinding (bindingKey key), answer⟩])
    (Kube.Tells.get fun answer hanswer => ⟨Elsewhere.orderly ⟨nofun, nofun⟩, hanswer, rfl⟩) ?_
  rintro _ (e | crb) ⟨hcrb, rfl⟩
  · dsimp only
    split_ifs with hreason
    · exact TellsOk.pure (hh.cleared (.absent hreason) (by simp))
    · exact TellsOk.throw
  · have hread : Idle [(⟨.get .clusterRoleBinding (bindingKey key), .ok crb⟩ : KubeEvent)] := by
      intro e he
      rw [List.mem_singleton.mp he]
      exact ⟨nofun, nofun⟩
    have hplace := hcrb crb rfl
    refine Kube.Tells.delete fun answer => ⟨⟨by simp, by simp, nofun⟩, fun _ ha => ?_⟩
    subst ha
    rw [hplace]
    exact (hh.append hread).cleared .deleted (by simp)

theorem tells_finishDeletion (hh : Idle h) :
    TellsOk (Orderly key) (fun _ _ => True) (finishDeletion ras) h := by
  unfold finishDeletion
  split_ifs
  · refine (tells_cleanupClusterResources hkey hh).bind fun h₁ _ _ hcleared => ?_
    refine TellsOk.bind (P := fun _ _ => True) (Kube.Tells.update fun answer _ => ⟨?_, ?_⟩)
      fun _ _ _ _ => .pure trivial
    · refine ⟨by simp, by simp, fun other hreleases => ?_⟩
      exact ⟨hreleases.1.symm.trans hkey, hcleared⟩
    · exact fun _ _ => trivial
  · exact .pure trivial

/-- After this the pass holds the finalizer. -/
theorem tells_holdFinalizer (hh : Idle h)
    (hread : (⟨.get .autoScaler key, .ok ras⟩ : KubeEvent) ∈ h) :
    TellsOk (Orderly key) (fun h' held => held.metadata.key = key ∧ Holds key h')
      (holdFinalizer ras) h := by
  unfold holdFinalizer
  split_ifs with hfin
  · refine .pure ⟨hkey, ⟨_, hread, .read hfin⟩, fun e he => (hh e he).not_releases⟩
  · have hadded := containsFinalizer_addFinalizer ras
    have hkept : ∀ other, ¬ Releases other (.update .autoScaler ras.addFinalizer) := by
      intro other hreleases
      cases hadded.symm.trans hreleases.2
    refine Kube.Tells.update fun answer hanswer => ⟨⟨by simp, by simp, ?_⟩, fun held hheld => ?_⟩
    · exact fun other hreleases => absurd hreleases (hkept other)
    · subst hheld
      exact ⟨(hanswer held rfl).trans hkey, hh.holds (.held hkey hadded) (hkept key)⟩

/-- The binding is created while the pass holds the finalizer. -/
theorem tells_ensureRBAC (hholds : Holds key h) :
    TellsOk (Orderly key) (fun _ _ => True) (ensureRBAC ras) h := by
  have haccount : Kube.Asks (Within key [.read .serviceAccount, .write .serviceAccount])
      (fun _ => True) (createOrUpdate .serviceAccount (plannerServiceAccount ras)) := by
    subst hkey
    exact asks_createOrUpdate ⟨by decide, rfl⟩
  have hrole : Kube.Asks (Within key [.write .clusterRole]) (fun _ => True)
      (createIfNotExists .clusterRole plannerClusterRole) :=
    asks_createIfNotExists ⟨by decide, rfl⟩
  have hfor : MadeFor key (plannerBinding ras) := by
    subst hkey
    exact ⟨rfl, rfl, rfl⟩
  apply (TellsOk.wrap (tellsOk_elsewhere haccount (by decide))).bind
  rintro _ _ - ⟨-, t₁, rfl, ht₁⟩
  apply (TellsOk.wrap (tellsOk_elsewhere hrole (by decide))).bind
  rintro _ _ - ⟨-, t₂, rfl, ht₂⟩
  have hholds₂ := (hholds.append ht₁).append ht₂
  apply TellsOk.wrap
  apply (tells_elsewhere asks_get (by decide)).bind_attempt
  rintro _ (e | crb) ⟨-, t₃, rfl, ht₃⟩
  · dsimp only
    split_ifs
    · refine TellsOk.bind (P := fun _ _ => True) (Kube.Tells.create fun answer _ => ⟨?_, ?_⟩)
        fun _ _ _ _ => .pure trivial
      · refine ⟨by simp, ?_, nofun⟩
        rintro obj ⟨⟩
        exact ⟨hfor, hholds₂.append ht₃⟩
      · exact fun _ _ => trivial
    · exact TellsOk.throw
  · exact TellsOk.pure trivial

theorem tells_reconcileWorkload (spec : ParsedSpec) (rbg : RoleBasedGroup)
    (prefillGPUs decodeGPUs : ℤ) : TellsOk (Orderly key) (fun _ _ => True)
      (reconcileWorkload now ras spec rbg prefillGPUs decodeGPUs) h :=
  (tellsOk_elsewhere (asks_reconcileWorkload hkey now spec rbg prefillGPUs decodeGPUs)
    (by decide)).mono fun _ _ _ => trivial

end Functions

theorem tells_reconcileLive {ras : AutoScaler} (hkey : ras.metadata.key = key) (spec : ParsedSpec)
    (hh : Idle h) (hread : (⟨.get .autoScaler key, .ok ras⟩ : KubeEvent) ∈ h) :
    TellsOk (Orderly key) (fun _ _ => True) (reconcileLive now ras spec) h := by
  apply (tells_holdFinalizer hkey hh hread).bind
  rintro h₁ held - ⟨hheld, hholds⟩
  apply (tells_elsewhere asks_get (by decide)).bind_attempt
  rintro _ (e | rbg) ⟨-, t, rfl, ht⟩
  · exact (tellsOk_elsewhere (asks_targetMissing hheld now e) (by decide)).mono
      fun _ _ _ => trivial
  · exact (tells_ensureRBAC hheld (hholds.append ht)).bind fun _ _ _ _ =>
      tells_reconcileWorkload hheld spec rbg _ _

/-- In every pass. -/
theorem tells_reconcile {r : AutoScalerReconciler} :
    TellsOk (Orderly key) (fun _ _ => True) (r.reconcile now key) [] := by
  refine Kube.Tells.bind_attempt (Q := fun h' (answer : Except ApiError AutoScaler) =>
    (∀ ras, answer = .ok ras → ras.metadata.key = key) ∧ h' = [⟨.get .autoScaler key, answer⟩])
    (Kube.Tells.get fun answer hanswer => ⟨Elsewhere.orderly ⟨nofun, nofun⟩, hanswer, rfl⟩) ?_
  rintro _ (e | ras) ⟨hras, rfl⟩
  · dsimp only
    split_ifs
    · exact TellsOk.pure trivial
    · exact TellsOk.throw
  · have hkey := hras ras rfl
    have hread : Idle [(⟨.get .autoScaler key, .ok ras⟩ : KubeEvent)] := by
      intro e he
      rw [List.mem_singleton.mp he]
      exact ⟨nofun, nofun⟩
    dsimp only
    split
    · exact (tellsOk_elsewhere (asks_setPhase hkey _ _ _ _) (by decide)).bind
        fun _ _ _ _ => .pure trivial
    · split_ifs
      · exact tells_finishDeletion hkey hread
      · exact tells_reconcileLive hkey _ hread (List.mem_singleton_self _)

/-! ## Every run -/

theorem outline (r : AutoScalerReconciler) :
    Pool.Outline r.Starts Faulty Administers KubeOp.Keyed Orderly Tended Knows where
  starts := by
    rintro key p ⟨now, rfl⟩
    exact Kube.Tells.mono tells_reconcile fun _ _ _ => trivial
  empty := fun key s =>
    ⟨fun hholds => absurd hholds not_holds_nil, fun hcleared => absurd hcleared not_cleared_nil⟩
  valid := fun _ _ _ _ _ ha => ha.keyed
  env := fun s s' hs he =>
    ⟨he.tolerates.tended hs, fun key h hknows => he.tolerates.knows hknows⟩
  acts := fun key h e s s' hs hknows horderly ha =>
    ⟨acts_tended hs hknows horderly ha, acts_knows hs hknows horderly ha,
      fun other hne h' hother => acts_others hne horderly hother ha⟩

/-- In every state that passes, stopped and failing anywhere, and administrators
can reach: each binding the operator created is the binding of an AutoScaler
that carries the finalizer, and none is left under a name without AutoScalers. -/
theorem bindings_tended {r : AutoScalerReconciler} {pool : PassPool Cluster}
    (hfresh : ∀ (place : NamespacedName) (crb : ClusterRoleBinding),
      s.objects .clusterRoleBinding place = some crb → ¬ OperatorMade crb)
    (hreach : Pool.Reaches r.Starts Faulty Administers (.idle s) pool) :
    (∀ (place : NamespacedName) (crb : ClusterRoleBinding),
      pool.shared.objects .clusterRoleBinding place = some crb → OperatorMade crb →
        ∃ (key : NamespacedName) (ras : AutoScaler),
          place = clusterKey (key.name ++ "-planner-binding") ∧
            pool.shared.objects .autoScaler key = some ras ∧ ras.containsFinalizer = true) ∧
      ∀ name : String, (∀ space, pool.shared.objects .autoScaler ⟨space, name⟩ = none) →
        ∀ crb : ClusterRoleBinding, pool.shared.objects .clusterRoleBinding
          (clusterKey (name ++ "-planner-binding")) = some crb → ¬ OperatorMade crb := by
  have hinitial : Tended s := fun place crb hcrb hmade => absurd hmade (hfresh place crb hcrb)
  have htended := ((Pool.sound_idle hinitial).reaches (outline r) hreach).invariant
  constructor
  · intro place crb hcrb hmade
    obtain ⟨key, hfor, ras, hras, hfin⟩ := htended place crb hcrb hmade
    have hplace : crb.metadata.key = place := ApiServer.keyOf_stored hcrb
    exact ⟨key, ras, hplace.symm.trans hfor.place, hras, hfin⟩
  · intro name hnone crb hcrb hmade
    obtain ⟨key, hfor, ras, hras, -⟩ := htended _ crb hcrb hmade
    have hplace : crb.metadata.key = clusterKey (name ++ "-planner-binding") :=
      ApiServer.keyOf_stored hcrb
    have hname : key.name = name :=
      bindingKey_eq_iff.mp (hfor.place.symm.trans (hplace.trans rfl) :
        bindingKey key = bindingKey ⟨"", name⟩)
    rw [← hname] at hnone
    cases (hnone key.namespaceName).symm.trans hras

/-! ## One pass -/

private def falcon : NamespacedName := ⟨"serving", "falcon"⟩

/-- An AutoScaler as it was submitted, and its target. -/
private def falconCluster : Cluster :=
  (ApiServer.empty.put .autoScaler
    { metadata := { key := falcon }
      spec := some (.obj [("pattern", .obj [("PDDisaggregated", .obj [])]),
        ("implementation", .obj [("DynamoPlanner", .obj [])])])
      status := none }).put .roleBasedGroup ⟨{ key := falcon }, .obj []⟩

/-- The first pass takes hold of the AutoScaler and binds it. -/
private def falconBound : Cluster :=
  (Kube.exec (serve "2025-06-01T00:00:00Z")
    ((⟨"", "", ""⟩ : AutoScalerReconciler).reconcile "2025-06-01T00:00:00Z" falcon)
    falconCluster).2

theorem bindings_tended_falcon :
    ∃ (crb : ClusterRoleBinding) (key : NamespacedName) (ras : AutoScaler),
      falconBound.objects .clusterRoleBinding (clusterKey "falcon-planner-binding") = some crb ∧
        clusterKey "falcon-planner-binding" = clusterKey (key.name ++ "-planner-binding") ∧
        falconBound.objects .autoScaler key = some ras ∧ ras.containsFinalizer = true := by
  have hrun : Pool.Run (AutoScalerReconciler.Starts ⟨"", "", ""⟩) Faulty Administers
      (.idle falconCluster) _ (.idle falconBound) :=
    Pool.run_start (fun _ _ => .served _) ⟨"2025-06-01T00:00:00Z", rfl⟩ _
  have hcrb : ∃ crb : ClusterRoleBinding, falconBound.objects .clusterRoleBinding
      (clusterKey "falcon-planner-binding") = some crb ∧ OperatorMade crb :=
    ⟨_, rfl, .head _⟩
  obtain ⟨crb, hcrb, hmade⟩ := hcrb
  obtain ⟨key, ras, hplace, hras, hfin⟩ :=
    (bindings_tended (fun _ _ h => by cases h) hrun.reaches).1 _ crb hcrb hmade
  exact ⟨crb, key, ras, hcrb, hplace, hras, hfin⟩

end RbgPlanner.Properties.OrphanedBindings
