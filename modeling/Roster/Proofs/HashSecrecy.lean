import Roster.Proofs.Access
import Roster.Proofs.Hashes

/-!
# Password hashes do not show

Of all that the server does, only signing in looks at a password hash. Saving a user copies the stored hash, and a new password
replaces it, but what is answered is made from the other fields of a user. Followed side by side in two worlds that differ in
password hashes, a request that does not sign in makes the same calls, up to the hashes of the users it saves.

Main statements: such a request gets the same answer in both worlds and leaves worlds that differ in password hashes at most,
and so does every sequence of such requests.
-/

namespace Roster

open Program

/-- Two computations that go side by side in worlds that differ in password hashes, and end with values that `Q` relates. -/
abbrev Blind {α β : Type} (Q : α → β → Prop) (p : Act α) (q : Act β) : Prop := Parallel Call.Paired Q p q

/-- A program of plain calls does not look at hashes. -/
theorem blind_of_plain {α : Type} {p : Act α} (h : Only Call.Plain p) : Blind Eq p p := h.parallel fun _ hc => hc.paired

/-! ## Groups -/

namespace Groups

/-- The groups without password hashes. -/
def withoutHashes (g : Groups) : Groups := g.map fun e => (e.1, e.2.map User.withoutHash)

/-- Two groupings of users who differ in their password hashes at most. -/
abbrev SameButHashes (g g' : Groups) : Prop := g.withoutHashes = g'.withoutHashes

/-- Adding a user to its group commutes with taking the hashes out. -/
theorem add_withoutHashes (g : Groups) (u : User) : g.withoutHashes.add u.withoutHash = (g.add u).withoutHashes := by
  induction g with
  | nil => rfl
  | cons e rest ih =>
    obtain ⟨role, users⟩ := e
    show (if role == u.role then _ else _) = _
    rw [add]
    split
    · simp [withoutHashes]
    · simp only [withoutHashes, List.map_cons]
      rw [← withoutHashes, ← withoutHashes, ← ih]

end Groups

/-- Grouping commutes with taking the hashes out: it goes by role and by activity. -/
theorem groupUsers_withoutHashes (users : List User) (activeOnly : Bool) :
    groupUsers (users.map User.withoutHash) activeOnly = (groupUsers users activeOnly).map Groups.withoutHashes := by
  unfold groupUsers
  rw [List.isEmpty_map]
  split
  · rfl
  · rw [List.filter_map, List.foldl_map]
    exact congrArg Except.ok (@List.foldl_hom _ _ _ Groups.withoutHashes Groups.add
      (fun g u => g.add (User.withoutHash u)) _ [] Groups.add_withoutHashes)

/-! ## The services -/

namespace Users

variable (cached : Bool)

/-- A user is remembered without its hash. -/
theorem remember_withoutHash (u : User) : remember cached u.withoutHash = remember cached u := by
  cases cached with
  | false => rfl
  | true =>
    simp only [remember, if_true]
    congr 1
    funext r
    cases r <;> rfl

/-- Two users who differ in their hashes are remembered by the same call. -/
theorem remember_blind {u v : User} (h : u.SameButHash v) : Blind Eq (remember cached u) (remember cached v) := by
  rw [h.congr (remember cached) (remember_withoutHash cached)]
  refine Only.parallel (P := fun c => Call.Paired c c Eq) (fun _ hc => hc) ?_
  cases cached with
  | false => trivial
  | true =>
    refine ⟨.same _, fun r => ?_⟩
    cases r with
    | ok _ => trivial
    | error f => exact ⟨.same _, fun _ => trivial⟩

/-- Forgetting does not look at hashes. -/
theorem forget_blind (id : UInt64) : Blind Eq (forget cached id) (forget cached id) := by
  cases cached with
  | false => exact .done rfl
  | true =>
    refine .call (.same _) fun x y hxy => ?_
    cases hxy with
    | fault f => exact .call (.same _) fun _ _ _ => .done rfl
    | value _ => exact .done rfl

/-- A look-up in the cache finds users who differ in their hashes at most. -/
theorem lookUp_blind (id : UInt64) : Blind (Option.Rel User.SameButHash) (lookUp cached id) (lookUp cached id) := by
  cases cached with
  | false => exact .done .none
  | true =>
    rw [lookUp_true]
    refine .call (.same _) fun x y hxy => ?_
    cases hxy with
    | fault f => exact .call (.same _) fun _ _ _ => .done .none
    | value h => exact .done h

/-- Getting a user answers with users who differ in their hashes at most. -/
theorem get_blind (id : UInt64) : Blind (FaultOr User.SameButHash) (get cached id).run (get cached id).run := by
  rw [run_get]
  refine (lookUp_blind cached id).bind fun o o' ho => ?_
  cases ho with
  | some h => exact .done (.value h)
  | none =>
    refine .call (.same _) fun x y hxy => ?_
    rcases hxy with f | h | _
    · exact .done (.fault _)
    · exact (remember_blind cached h).bind fun _ _ _ => .done (.value h)
    · exact .done (.fault _)

/-- Storing users who differ in their hashes answers with such users. -/
theorem store_blind {u v : User} (h : u.SameButHash v) :
    Blind (FaultOr User.SameButHash) (store cached u) (store cached v) := by
  refine .call (.save h) fun x y hxy => ?_
  cases hxy with
  | fault f => exact .done (.fault _)
  | value h => exact (remember_blind cached h).bind fun _ _ _ => .done (.value h)

/-- The stored hash is copied, never looked at. -/
theorem keepHash_blind (u : User) : Blind (FaultOr User.SameButHash) (keepHash u).run (keepHash u).run := by
  rw [run_keepHash]
  split
  · refine .call (.same _) fun x y hxy => ?_
    rcases hxy with f | h | _
    · exact .done (.fault _)
    · exact .done (.value rfl)
    · exact .done (.value rfl)
  · exact .done (.value rfl)

/-- Saving one user copies whatever hash is stored, and answers with users who differ in their hashes at most. -/
theorem save_blind (u : User) : Blind (FaultOr User.SameButHash) (save cached u).run (save cached u).run := by
  rw [run_save]
  cases check u with
  | error f => exact .done (.fault f)
  | ok _ =>
    refine (keepHash_blind u).bind fun x y hxy => ?_
    cases hxy with
    | fault f => exact .done (.fault f)
    | value h => exact store_blind cached h

/-- Deleting gives the same answer. -/
theorem delete_blind (id : UInt64) : Blind (FaultOr Eq) (delete cached id).run (delete cached id).run := by
  rw [run_delete]
  refine .call (.same _) fun x y hxy => ?_
  obtain rfl : x = y := hxy
  cases x with
  | error f => exact .done (.fault f)
  | ok _ => exact (forget_blind cached id).bind fun _ _ _ => .done (.value rfl)

/-- Deactivating answers with users who differ in their hashes at most. -/
theorem deactivate_blind (id : UInt64) :
    Blind (FaultOr User.SameButHash) (deactivate cached id).run (deactivate cached id).run := by
  rw [run_deactivate]
  refine .call (.same _) fun x y hxy => ?_
  rcases hxy with f | h | _
  · exact .done (.fault _)
  · exact store_blind cached (h.congr (fun u => u.deactivate.withoutHash) fun _ => rfl)
  · exact .done (.fault _)

/-- Sorting by id keeps two lists different in hashes at most. -/
theorem sameButHashes_sorted {us vs : List User} (h : SameButHashes us vs) :
    SameButHashes (us.mergeSort fun a b => a.id ≤ b.id) (vs.mergeSort fun a b => a.id ≤ b.id) := by
  have hsort : ∀ us : List User, (us.mergeSort fun a b => a.id ≤ b.id).map User.withoutHash =
      (us.map User.withoutHash).mergeSort fun a b => a.id ≤ b.id :=
    fun us => List.map_mergeSort fun _ _ _ _ => rfl
  unfold SameButHashes
  rw [hsort, hsort, h]

/-- Listing answers with users who differ in their hashes at most. -/
theorem list_blind : Blind (FaultOr SameButHashes) list.run list.run := by
  rw [run_list]
  refine .call (.same _) fun x y hxy => ?_
  cases hxy with
  | fault f => exact .done (.fault _)
  | value h => exact .done (.value (sameButHashes_sorted h))

/-- Grouping answers with groups that differ in hashes at most. -/
theorem groupByRole_blind (activeOnly : Bool) :
    Blind (FaultOr Groups.SameButHashes) (groupByRole activeOnly).run (groupByRole activeOnly).run := by
  rw [run_groupByRole]
  refine .call (.same _) fun x y hxy => ?_
  cases hxy with
  | fault f => exact .done (.fault _)
  | value h =>
    refine .done (FaultOr.of_map ?_)
    rw [← groupUsers_withoutHashes, ← groupUsers_withoutHashes, sameButHashes_sorted h]

end Users

namespace SignIn

variable (s : SignIn)

/-- A new password replaces the stored hash, whatever that is. -/
theorem setPassword_blind (id : UInt64) (password : Text) :
    Blind (FaultOr Eq) (s.setPassword id password).run (s.setPassword id password).run := by
  rw [run_setPassword]
  split
  · exact .done (.fault _)
  · refine .call (.same _) fun x y hxy => ?_
    rcases hxy with f | h | _
    · exact .done (.fault _)
    · refine .call (.same _) fun salt salt' hsalt => ?_
      obtain rfl : salt = salt' := hsalt
      cases s.passwords.hash salt password with
      | error f => exact .done (.fault _)
      | ok hash =>
        -- The salt is the same on both sides, hence the new hash, and the old one is gone.
        refine .call (.save (h.congr (fun u => User.withoutHash { u with passwordHash := hash }) fun _ => rfl)) ?_
        intro x y hxy
        cases hxy with
        | fault f => exact .done (.fault _)
        | value _ => exact (Users.forget_blind s.cached id).bind fun _ _ _ => .done (.value rfl)
    · exact .done (.fault _)

/-- Authenticating lets the same user in: the token is checked, not the hash. -/
theorem authenticate_blind (token : Text) :
    Blind (FaultOr User.SameButHash) (s.authenticate token).run (s.authenticate token).run := by
  rw [run_authenticate]
  refine .call (.same _) fun now now' hnow => ?_
  obtain rfl : now = now' := hnow
  cases s.identity? now token with
  | none => exact .done (.fault _)
  | some i =>
    refine .call (.same _) fun x y hxy => ?_
    rcases hxy with f | @⟨u, v, h⟩ | _
    · exact .done (.fault _)
    · have hactive : u.active = v.active := h.congr User.active fun _ => rfl
      dsimp only
      rw [hactive]
      split
      · exact .done (.value h)
      · exact .done (.fault _)
    · exact .done (.fault _)

end SignIn

namespace Batch

/-- The outcome of an item differs in the hash at most. -/
theorem outcome_blind (id : UInt64) {t : Task User} (h : Blind (FaultOr User.SameButHash) t.run t.run) :
    Blind (fun x y => x.map User.withoutHash = y.map User.withoutHash) (outcome id t) (outcome id t) := by
  refine h.bind fun x y hxy => ?_
  cases hxy with
  | fault f => exact .call (.same _) fun _ _ _ => .done rfl
  | value h => exact .done (congrArg Except.ok h)

/-- The outcomes of a batch differ in hashes at most. -/
theorem outcomes_blind (f : Fetcher) (ids : List UInt64) :
    Blind (fun os os' => os.map (Except.map User.withoutHash) = os'.map (Except.map User.withoutHash)) (outcomes f ids)
      (outcomes f ids) := by
  cases f with
  | stored =>
    refine mapM_parallel (Except.map User.withoutHash) (fun id => outcome_blind id ?_) ids
    refine .call (.same _) fun x y hxy => ?_
    rcases hxy with f | h | _
    · exact .done (.fault f)
    · exact .done (.value h)
    · exact .done (.fault _)
  | simulated delay =>
    refine .call (.same _) fun waited waited' hw => ?_
    obtain rfl : waited = waited' := hw
    refine mapM_parallel (Except.map User.withoutHash) (fun id => outcome_blind id (.done ?_)) ids
    exact FaultOr.refl (Q := User.SameButHash) (fun _ => rfl) _

/-- Filling a slot commutes with taking the hashes out. -/
theorem fill_withoutHash (slots : List (Option User)) (i : Nat) (o : Except Fault User) :
    fill (slots.map (Option.map User.withoutHash)) (i, o.map User.withoutHash) =
      (fill slots (i, o)).map (Option.map User.withoutHash) := by
  cases o with
  | error f => rfl
  | ok u =>
    show (slots.map (Option.map User.withoutHash)).set i ((some u).map User.withoutHash) = (slots.set i (some u)).map _
    rw [List.map_set]

/-- Which slots are filled does not depend on password hashes. -/
theorem settle_withoutHash (n : Nat) (completions : List (Nat × Except Fault User)) :
    settle n (completions.map fun c => (c.1, c.2.map User.withoutHash)) =
      (settle n completions).map (Option.map User.withoutHash) := by
  have hempty : (List.replicate n (none : Option User)).map (Option.map User.withoutHash) = List.replicate n none :=
    List.map_replicate
  have hfold := @List.foldl_hom _ _ _ (List.map (Option.map User.withoutHash)) fill
    (fun slots c => fill slots (c.1, c.2.map User.withoutHash)) completions (List.replicate n none)
    fun slots c => fill_withoutHash slots c.1 c.2
  unfold settle
  rw [List.foldl_map, ← hfold, hempty]

/-- Gathering commutes with taking the hashes out. -/
theorem gather_withoutHash (slots : List (Option User)) :
    gather (slots.map (Option.map User.withoutHash)) = (gather slots).map (List.map User.withoutHash) := by
  have hfilled : (slots.map (Option.map User.withoutHash)).filterMap id = (slots.filterMap id).map User.withoutHash := by
    rw [List.filterMap_map, List.map_filterMap]
    rfl
  unfold gather
  rw [hfilled]
  cases slots.filterMap id <;> rfl

theorem placed_map (f : Except Fault User → Except Fault User) (os : List (Except Fault User)) :
    placed (os.map f) = (placed os).map fun c => (c.1, f c.2) := by
  unfold placed
  rw [List.zipIdx_map, List.map_map, List.map_map]
  rfl

/-- A batch answers with users who differ in their hashes at most. -/
theorem run_blind (f : Fetcher) (ids : List UInt64) : Blind (FaultOr Users.SameButHashes) (run f ids).run (run f ids).run := by
  unfold run
  split
  · exact .done (.fault _)
  · dsimp only
    rw [Task.run_lift_bind]
    refine (outcomes_blind f ids).bind fun os os' hos => .call (.same _) fun x y hxy => ?_
    obtain rfl : x = y := hxy
    cases x with
    | error f => exact .done (.fault f)
    | ok _ =>
      refine .done (FaultOr.of_map ?_)
      rw [← gather_withoutHash, ← gather_withoutHash, ← settle_withoutHash, ← settle_withoutHash, ← placed_map, ← placed_map,
        hos]

end Batch

/-! ## What is shown -/

namespace Http

/-- A list of users is shown without hashes. -/
theorem shownUsers_withoutHash (us : List User) : shownUsers (us.map User.withoutHash) = shownUsers us := by
  unfold shownUsers
  rw [List.map_map]
  rfl

/-- Groups are shown without hashes. -/
theorem shownGroups_withoutHashes (g : Groups) : shownGroups g.withoutHashes = shownGroups g := by
  have hsorted : g.withoutHashes.sorted = g.sorted.withoutHashes := by
    unfold Groups.sorted Groups.withoutHashes
    symm
    apply List.map_mergeSort
    intros
    rfl
  unfold shownGroups
  rw [hsorted, Groups.withoutHashes, List.map_map]
  refine congrArg Json.object (List.map_congr_left fun e _ => ?_)
  exact congrArg (Prod.mk e.1) (shownUsers_withoutHash e.2)

end Http

/-- The page is made without hashes. -/
theorem Page.sections_withoutHashes (g : Groups) : sections g.withoutHashes = sections g := by
  have hget : ∀ role, g.withoutHashes.get? role = (g.get? role).map (List.map User.withoutHash) :=
    fun role => lookup_map_value (List.map User.withoutHash) g role
  have hempty : g.withoutHashes.isEmpty = g.isEmpty := List.isEmpty_map
  have hsection : ∀ role users, sectionOf role (users.map User.withoutHash) = sectionOf role users := by
    intro role users
    unfold sectionOf
    rw [List.flatMap_map]
    rfl
  unfold sections
  rw [hempty]
  congr 3
  funext role
  rw [hget]
  cases g.get? role.name with
  | none => rfl
  | some users => exact hsection role users

namespace Http

/-! ## Endpoints -/

theorem json_blind (status : Nat) {x y : Json} (h : x = y) : Blind Eq (json status x) (json status y) :=
  h ▸ blind_of_plain (json_plain status x)

/-- A task whose fault is answered with an error gets the same answer, if its values do. -/
theorem orFault_blind {α β : Type} {Q : α → β → Prop} (v : Visit) (activity : Text) {t : Task α} {t' : Task β}
    {next : α → Act Reply} {next' : β → Act Reply} (ht : Blind (FaultOr Q) t.run t'.run)
    (hn : ∀ a b, Q a b → Blind Eq (next a) (next' b)) : Blind Eq (orFault v activity t next) (orFault v activity t' next') := by
  refine ht.bind fun x y hxy => ?_
  cases hxy with
  | fault f => exact blind_of_plain (faultReply_plain _ _ f)
  | value h => exact hn _ _ h

/-- Reading a value from the request goes the same way on both sides. -/
theorem orFault_read_blind {α : Type} (v : Visit) (activity : Text) (x : Except Fault α) {next : α → Act Reply}
    (hn : ∀ a, Blind Eq (next a) (next a)) :
    Blind Eq (orFault v activity (Task.ofExcept x) next) (orFault v activity (Task.ofExcept x) next) := by
  refine orFault_blind v activity (Q := Eq) (.done (.refl (fun _ => rfl) x)) ?_
  rintro a _ rfl
  exact hn a

/-- Users who differ in their hashes are answered with alike. -/
theorem userReply_blind {u u' : User} (h : u.SameButHash u') :
    Blind Eq (json 200 (single "user" (shownUser u))) (json 200 (single "user" (shownUser u'))) :=
  json_blind 200 (congrArg (single "user") (h.congr shownUser fun _ => rfl))

/-- Lists of users who differ in their hashes are answered with alike. -/
theorem usersReply_blind {us us' : List User} (h : Users.SameButHashes us us') :
    Blind Eq (json 200 (single "users" (shownUsers us))) (json 200 (single "users" (shownUsers us'))) := by
  refine json_blind 200 (congrArg (single "users") ?_)
  rw [← shownUsers_withoutHash us, ← shownUsers_withoutHash us', h]

/-- The endpoint for one user shows no hash. -/
theorem getUser_blind (s : Site) (v : Visit) : Blind Eq (getUser s v) (getUser s v) :=
  orFault_read_blind v _ _ fun id => orFault_blind v _ (Users.get_blind s.cached id) fun _ _ => userReply_blind

/-- Saving a user over the network shows no hash, although it copies the stored one. -/
theorem putUser_blind (s : Site) (v : Visit) : Blind Eq (putUser s v) (putUser s v) := by
  refine orFault_read_blind v _ _ fun id => orFault_read_blind v _ _ fun b => orFault_read_blind v _ _ fun role => ?_
  exact orFault_blind v _ (Users.save_blind s.cached _) fun _ _ => userReply_blind

/-- Deleting over the network shows no hash. -/
theorem deleteUser_blind (s : Site) (v : Visit) : Blind Eq (deleteUser s v) (deleteUser s v) :=
  orFault_read_blind v _ _ fun id => orFault_blind v _ (Users.delete_blind s.cached id) fun _ _ _ => .done rfl

/-- Deactivating over the network shows no hash. -/
theorem deactivateUser_blind (s : Site) (v : Visit) : Blind Eq (deactivateUser s v) (deactivateUser s v) :=
  orFault_read_blind v _ _ fun id => orFault_blind v _ (Users.deactivate_blind s.cached id) fun _ _ => userReply_blind

/-- Setting a password over the network does not show the hash it replaces. -/
theorem setPassword_blind (s : Site) (v : Visit) : Blind Eq (setPassword s v) (setPassword s v) :=
  orFault_read_blind v _ _ fun id => orFault_read_blind v _ _ fun b =>
    orFault_blind v _ (s.signIn.setPassword_blind id b.password) fun _ _ _ => .done rfl

/-- The endpoint for users by role shows no hash. -/
theorem usersByRole_blind (v : Visit) : Blind Eq (usersByRole v) (usersByRole v) := by
  unfold usersByRole
  dsimp only
  split
  · exact blind_of_plain (json_plain _ _)
  · refine orFault_blind v _ (Users.groupByRole_blind _) fun g g' h => json_blind 200 (congrArg (single "groups") ?_)
    rw [← shownGroups_withoutHashes g, ← shownGroups_withoutHashes g', h]

/-- The endpoint for batches shows no hash. -/
theorem batch_blind (s : Site) (v : Visit) : Blind Eq (batch s v) (batch s v) :=
  orFault_read_blind v _ _ fun _ => orFault_blind v _ (Batch.run_blind s.fetcher _) fun _ _ => usersReply_blind

/-- The groups of the roster differ in hashes at most. -/
theorem rosterGroups_blind : Blind (FaultOr Groups.SameButHashes) rosterGroups.run rosterGroups.run := by
  refine (Users.groupByRole_blind false).bind fun x y hxy => ?_
  cases hxy with
  | value h => exact .done (.value h)
  | fault f =>
    dsimp only
    split
    · exact .done (.value rfl)
    · exact .done (.fault f)

/-- What shows of the groups on the page are the sections. -/
theorem afterGroups_blind {next : Except Fault Groups → Act Reply} (hplain : ∀ r, Only Call.Plain (next r))
    (hnext : ∀ g g', Page.sections g = Page.sections g' → next (.ok g) = next (.ok g')) :
    Blind Eq (rosterGroups.run.bind next) (rosterGroups.run.bind next) := by
  refine rosterGroups_blind.bind fun x y hxy => ?_
  cases hxy with
  | fault f => exact blind_of_plain (hplain _)
  | @value g g' h =>
    have hsections : Page.sections g = Page.sections g' := by
      rw [← Page.sections_withoutHashes g, ← Page.sections_withoutHashes g', h]
    rw [hnext g g' hsections]
    exact blind_of_plain (hplain _)

/-- The page of the roster shows no hash, of the users on it or of the viewer. -/
theorem rosterPage_blind (v : Visit) {o o' : Option User} (ho : Option.Rel User.SameButHash o o') :
    Blind Eq (rosterPage { v with user := o }) (rosterPage { v with user := o' }) := by
  have hviewer : (o.map User.name).getD [] = (o'.map User.name).getD [] := by
    cases ho with
    | none => rfl
    | some h => exact h.congr User.name fun _ => rfl
  rw [rosterPage_eq, rosterPage_eq]
  dsimp only
  rw [hviewer]
  refine afterGroups_blind (showPage_plain _) fun g g' hsections => ?_
  simp only [showPage, Page.pieces, hsections]

/-- The stream of the roster shows no hash. -/
theorem rosterStream_blind (s : Site) (v : Visit) : Blind Eq (rosterStream s v) (rosterStream s v) := by
  rw [rosterStream_eq]
  refine afterGroups_blind (showStream_plain _ _) fun g g' hsections => ?_
  simp only [showStream, hsections]

/-- Every endpoint but the one for signing in answers without looking at password hashes, those of the one who asks
included. -/
theorem serve_blind (s : Site) (v : Visit) {o o' : Option User} (ho : Option.Rel User.SameButHash o o') {e : Endpoint}
    (he : e ≠ .login) : Blind Eq (e.serve s { v with user := o }) (e.serve s { v with user := o' }) := by
  cases e with
  | health => exact blind_of_plain (json_plain _ _)
  | login => exact absurd rfl he
  | logout => exact .done rfl
  | me =>
    cases ho with
    | none => exact blind_of_plain (json_plain _ _)
    | some h => exact userReply_blind h
  | listUsers => exact orFault_blind { v with user := o } _ Users.list_blind fun _ _ => usersReply_blind
  | usersByRole => exact usersByRole_blind { v with user := o }
  | batch => exact batch_blind s { v with user := o }
  | getUser => exact getUser_blind s { v with user := o }
  | putUser => exact putUser_blind s { v with user := o }
  | deleteUser => exact deleteUser_blind s { v with user := o }
  | deactivateUser => exact deactivateUser_blind s { v with user := o }
  | setPassword => exact setPassword_blind s { v with user := o }
  | describeRole => exact blind_of_plain (describeRole_plain { v with user := o })
  | counter => exact blind_of_plain (counter_plain s { v with user := o })
  | rosterPage => exact rosterPage_blind v ho
  | rosterStream => exact rosterStream_blind s { v with user := o }

/-! ## Requests -/

/-- A request to sign in. -/
structure Request.SignsIn (r : Request) : Prop where
  target : r.rawTarget ≠ utf8 "*"
  clean : cleanPath r.target.escapedPath = r.target.escapedPath
  method : r.method = utf8 "POST"
  path : pathSegments r.target.escapedPath = ["api", "auth", "login"]

/-- Only one method on one path signs in. -/
theorem findRoute?_login {method : Text} {segments : List Text} {segment : Text}
    (h : findRoute? method segments = some (.login, segment)) : method = utf8 "POST" ∧ segments = ["api", "auth", "login"] := by
  obtain ⟨route, hm, h⟩ := List.exists_of_findSome?_eq_some h
  split at h
  · rename_i hserves
    obtain ⟨s, hp, hs⟩ := Option.map_eq_some_iff.mp h
    have he : route.endpoint = .login := congrArg Prod.fst hs
    simp only [routes, List.mem_cons, List.not_mem_nil, or_false] at hm
    rcases hm with rfl | rfl | rfl | rfl | rfl | rfl | rfl | rfl | rfl | rfl | rfl | rfl | rfl | rfl | rfl | rfl
    all_goals try cases he
    obtain rfl := method_of_serves hserves (by decide)
    simp only [matchPath_fixed, matchPath_nil] at hp
    obtain ⟨_, rfl, _, rfl, _, rfl, rfl, _⟩ := hp
    exact ⟨rfl, rfl⟩
  · cases h

/-- Only requests to sign in are routed to the endpoint for it. -/
theorem Request.signsIn_of_route {r : Request} {segment : Text} (h : r.route? = some (.login, segment)) : r.SignsIn := by
  unfold route? at h
  split at h
  · cases h
  · rename_i ht
    split at h
    · cases h
    · rename_i hc
      obtain ⟨hmethod, hpath⟩ := findRoute?_login h
      have hc : r.cleaned = r.target.escapedPath := by simpa using hc
      have hconnect : (r.method == utf8 "CONNECT") = false := by
        rw [hmethod]
        decide
      refine ⟨by simpa using ht, ?_, hmethod, hc ▸ hpath⟩
      simpa [cleaned, hconnect] using hc

/-- An endpoint behind its guard shows no hash, unless it signs in. -/
theorem serveGuarded_blind (s : Site) (v : Visit) {e : Endpoint} (he : e ≠ .login) :
    Blind Eq (e.serveGuarded s v) (e.serveGuarded s v) := by
  unfold Endpoint.serveGuarded
  split
  · -- What is open to everybody is served without looking up who is asking.
    have hsame : Option.Rel User.SameButHash v.user v.user := rel_of_map rfl
    exact serve_blind s v hsame he
  · exact orFault_blind v _ (s.signIn.authenticate_blind _) fun u u' h => serve_blind s v (.some h) he
  · refine orFault_blind v _ (s.signIn.authenticate_blind _) fun u u' h => ?_
    rw [h.congr User.isAdmin fun _ => rfl]
    split
    · exact serve_blind s v (.some h) he
    · exact blind_of_plain (faultReply_plain _ _ _)

/-- The whole way of a request that does not sign in shows no hash. -/
theorem dispatch_blind (s : Site) {r : Request} (hr : ¬r.SignsIn) (requestId : Text) :
    Blind Eq (dispatch s r requestId) (dispatch s r requestId) := by
  cases h : r.route? with
  | none => exact blind_of_plain (dispatch_plain h s requestId)
  | some route =>
    obtain ⟨e, segment⟩ := route
    rw [dispatch_of_route h]
    refine serveGuarded_blind s _ ?_
    rintro rfl
    exact hr (Request.signsIn_of_route h)

/-- A request that does not sign in is served without looking at password hashes. -/
theorem request_blind (s : Site) {r : Request} (hr : ¬r.SignsIn) : Blind Eq (serve s r) (serve s r) := by
  refine (blind_of_plain (requestId_plain r)).bind ?_
  rintro id _ rfl
  refine .call (.same .now) ?_
  rintro start _ rfl
  refine (dispatch_blind s hr id).bind ?_
  rintro reply _ rfl
  refine .call (.same .now) ?_
  rintro done _ rfl
  exact .call (.same _) fun _ _ _ => .done rfl

/-- Password hashes do not show. A request that does not sign in gets the same answer in two worlds that differ in the password
hashes of stored and cached users, status, fields and body, and leaves worlds that differ in password hashes at most. -/
theorem answers_hide_hashes (s : Site) {r : Request} (hr : ¬r.SignsIn) {w w' : World} (h : w.SameButHashes w') :
    let x := w.run (serve s r)
    let x' := w'.run (serve s r)
    x.1 = x'.1 ∧ x.2.body = x'.2.body ∧ x.2.SameButHashes x'.2 := by
  obtain ⟨hreply, hworld⟩ := World.run_paired (request_blind s hr) h
  exact ⟨hreply, hworld.body, hworld⟩

/-- An admin changes the role of a user whose stored hash is one or another, with a cache that wrongly holds a hash or does
not. -/
theorem hash_kept_unseen :
    let s : Site :=
      { signIn := { secret := "key", passwords := Password.salted 4, cached := true }, cached := true, cookieSecure := false,
        counterDelay := 0 }
    let boss : User := { id := 1, name := "Bo", email := "bo@example.com", role := "admin", passwordHash := "one" }
    let ann : User := { id := 2, name := "Ann", email := "ann@example.com", role := "viewer", passwordHash := "two" }
    let w : World := { clock := 0, storage := .memory { users := [boss, ann] }, caching := .inProcess ⟨[("2", ann)]⟩ }
    let w' : World :=
      { w with
        storage := .memory { users := [{ boss with passwordHash := [] }, { ann with passwordHash := "three" }] }
        caching := .inProcess ⟨[("2", ann.withoutHash)]⟩ }
    let r : Request :=
      { method := "PUT", rawTarget := "/api/users/2"
        target := { path := "/api/users/2", escapedPath := "/api/users/2", query := [] }
        headers := [⟨"Authorization", utf8 "Bearer " ++
          Token.sign s.signIn.secret "\x7b\"alg\":\"HS256\"\x7d" "\x7b\"role\":\"viewer\",\"sub\":\"1\"\x7d"⟩]
        body := "\x7b\"name\":\"Ann\",\"email\":\"ann@example.com\",\"role\":\"editor\"\x7d" }
    ¬r.SignsIn ∧ w.SameButHashes w' ∧ (w.run (serve s r)).1 = (w'.run (serve s r)).1 ∧
      (w.run (serve s r)).2.body = (w'.run (serve s r)).2.body ∧
      (w.run (serve s r)).2.SameButHashes (w'.run (serve s r)).2 := by
  intro s boss ann w w' r
  have hr : ¬r.SignsIn := fun h => absurd h.method (show utf8 "PUT" ≠ utf8 "POST" by decide)
  have hw : w.SameButHashes w' := ⟨_, _, rfl, rfl, rfl⟩
  exact ⟨hr, hw, answers_hide_hashes s hr hw⟩

/-! ## Sequences of requests -/

/-- A request and what comes with it: how much time has passed since the one before, the id it is given, when its client gives
up, and how much of an answer its client takes. -/
structure Arrival where
  request : Request
  delay : Span := 0
  freshId : Text := []
  canceled : Bool := false
  deadline : Option Instant := none
  writesLeft : Option Nat := none

/-- The world in which a request arrives. -/
def Arrival.enter (a : Arrival) (w : World) : World :=
  { w.advance a.delay with
    freshId := a.freshId, canceled := a.canceled, deadline := a.deadline, writesLeft := a.writesLeft, pieces := [] }

/-- Serves requests one after the other; the answers with their bodies, and the world at the end. -/
def serveAll (s : Site) : List Arrival → World → List (Reply × Text) × World
  | [], w => ([], w)
  | a :: rest, w =>
    let (reply, v) := (a.enter w).run (serve s a.request)
    let (replies, u) := serveAll s rest v
    ((reply, v.body) :: replies, u)

/-- What an arrival changes does not depend on hashes. -/
theorem Arrival.enter_sameButHashes (a : Arrival) {w w' : World} (h : w.SameButHashes w') :
    (a.enter w).SameButHashes (a.enter w') := by
  obtain ⟨storage, caching, rfl, hs, hk⟩ := h
  exact ⟨storage, caching, rfl, hs, hk⟩

/-- In a sequence of requests that do not sign in, no answer depends on password hashes. -/
theorem serveAll_hides_hashes (s : Site) {arrivals : List Arrival} (hr : ∀ a ∈ arrivals, ¬a.request.SignsIn) {w w' : World}
    (h : w.SameButHashes w') :
    (serveAll s arrivals w).1 = (serveAll s arrivals w').1 ∧
      (serveAll s arrivals w).2.SameButHashes (serveAll s arrivals w').2 := by
  induction arrivals generalizing w w' with
  | nil => exact ⟨rfl, h⟩
  | cons a rest ih =>
    obtain ⟨ha, hrest⟩ := List.forall_mem_cons.mp hr
    obtain ⟨hreply, hworld⟩ := World.run_paired (request_blind s ha) (a.enter_sameButHashes h)
    obtain ⟨hreplies, hend⟩ := ih hrest hworld
    simp only [serveAll]
    exact ⟨by rw [hreply, hworld.body, hreplies], hend⟩

end Http
end Roster
