import SuiteBridge.Proofs.Call.Endings
import SuiteBridge.Proofs.Call.Schema
import SuiteBridge.Proofs.Entity.Encoding

/-!
# Updates of what is given

Two tools change only what is given of a page or a shared link. `updates` says for each of them
which texts name what is changed, and how the value of each member that can be changed is read. Both
tools come out in one of three ways (`Update.Comes`, `comes_plan`): an argument cannot be used,
nothing is to be changed, or a document is sent. It has the members for which a value was given,
each with that value, and no other (`update_touches_given`).
-/

namespace SuiteBridge.Suite

/-! ## What can be changed -/

/-- A member of a document, and how a new value for it is read from the arguments. -/
structure Field where
  name : String
  read : Arguments → Except Fault (Option Json)

/-- A tool that changes what is given. -/
structure Update where
  tool : Tool
  /-- The arguments that say of what something is changed. -/
  targets : List String
  /-- What can be changed. -/
  fields : List Field
  /-- What to give when nothing was given. -/
  hint : String

/-- The update of a page: its title, its text and the members to notify. -/
def Wiki.pageUpdate : Update where
  tool := Wiki.updatePage
  targets := ["wiki_id", "page_id"]
  fields := [
    ⟨"subject", fun args => (args.text? "subject").map (Option.map .string)⟩,
    ⟨"body", fun args => (args.text? "body").map (Option.map (formatted Wiki.markdown))⟩,
    ⟨"referrers", fun args => (args.list? "referrer_member_ids").map (Option.map memberEntries)⟩]
  hint := "give at least one of subject, body or referrer_member_ids"

/-- The update of a shared link: when it ends and whom it is for. -/
def Drive.linkUpdate : Update where
  tool := Drive.updateSharedLink
  targets := ["drive_id", "file_id", "link_id"]
  fields := [
    ⟨"expiredAt", fun args => (args.text? "expired_at").map (Option.map .string)⟩,
    ⟨"scope", fun args => (args.oneOf? "scope" Drive.linkScopes).map (Option.map .string)⟩]
  hint := "give expired_at and/or scope"

/-- The tools that change what is given. -/
def updates : List Update :=
  [Wiki.pageUpdate, Drive.linkUpdate]

/-! ## What is changed -/

/-- What is given of some fields, one after the other. -/
def changes (args : Arguments) : List Field → Except Fault Members
  | [] => .ok []
  | field :: fields =>
    (field.read args).bind fun value =>
      (changes args fields).map (Members.optional field.name value ++ ·)

section Changes

variable {args : Arguments} {fields : List Field} {given : Members}

theorem changes_cons_eq_ok {field : Field} :
    changes args (field :: fields) = .ok given ↔
      ∃ value rest, field.read args = .ok value ∧ changes args fields = .ok rest ∧
        given = Members.optional field.name value ++ rest := by
  rw [changes]
  generalize changes args fields = others
  cases field.read args with
  | error fault => simp [Except.bind]
  | ok value =>
      cases others with
      | error fault => simp [Except.bind, Except.map]
      | ok rest => simp [Except.bind, Except.map, eq_comm]

/-- Nothing comes in but the fields, in their order and each at most once. -/
theorem sublist_changes (read : changes args fields = .ok given) :
    (given.map Prod.fst).Sublist (fields.map Field.name) := by
  induction fields generalizing given with
  | nil =>
      cases read
      exact List.Sublist.slnil
  | cons field fields ih =>
      obtain ⟨value, rest, -, others, rfl⟩ := changes_cons_eq_ok.mp read
      rw [List.map_append]
      exact (Members.map_fst_optional_sublist field.name value).append (ih others)

/-- Each field is there with what was read for it. -/
theorem lookup_changes (distinct : (fields.map Field.name).Nodup)
    (read : changes args fields = .ok given) :
    ∀ field ∈ fields, field.read args = .ok (given.lookup field.name) := by
  induction fields generalizing given with
  | nil => exact List.forall_mem_nil _
  | cons field fields ih =>
      obtain ⟨value, rest, first, others, rfl⟩ := changes_cons_eq_ok.mp read
      obtain ⟨fresh, apart⟩ := List.nodup_cons.mp distinct
      have absent : rest.lookup field.name = none := by
        rw [List.lookup_eq_none_iff]
        intro member kept
        have named : member.1 ∈ fields.map Field.name :=
          (sublist_changes others).subset (List.mem_map_of_mem kept)
        rw [bne_iff_ne]
        intro same
        exact fresh (same ▸ named)
      refine List.forall_mem_cons.mpr ⟨?_, fun other later => ?_⟩
      · rw [first, Members.lookup_optional_append, if_pos rfl, absent]
        cases value <;> rfl
      · have different : other.name ≠ field.name := by
          intro same
          exact fresh (same ▸ List.mem_map_of_mem later)
        rw [ih apart others other later, Members.lookup_optional_append, if_neg different]

/-- There is nothing to change exactly if nothing is given for any field. -/
theorem changes_eq_nil_iff :
    changes args fields = .ok [] ↔ ∀ field ∈ fields, field.read args = .ok none := by
  induction fields with
  | nil => exact iff_of_true rfl (List.forall_mem_nil _)
  | cons field fields ih =>
      rw [changes_cons_eq_ok, List.forall_mem_cons, ← ih]
      constructor
      · rintro ⟨value, rest, first, others, empty⟩
        obtain ⟨none, nothing⟩ := List.append_eq_nil_iff.mp empty.symm
        rw [optional_eq_nil_iff] at none
        exact ⟨none ▸ first, nothing ▸ others⟩
      · rintro ⟨first, others⟩
        exact ⟨none, [], first, others, rfl⟩

end Changes

/-! ## What comes of an update -/

namespace Update

variable {update : Update} {args : Arguments}

/-- What can come of an update: an argument cannot be used, nothing is given to be changed, or what
is given is sent. -/
inductive Comes (update : Update) (args : Arguments) : Except Fault Plan → Prop where
  | untargeted {target : String} {fault : Fault} (listed : target ∈ update.targets)
      (failed : args.text target = .error fault) : Comes update args (.error fault)
  | unread {field : Field} {fault : Fault} (listed : field ∈ update.fields)
      (failed : field.read args = .error fault) : Comes update args (.error fault)
  | idle (targeted : ∀ target ∈ update.targets, Gives (args.text target))
      (nothing : changes args update.fields = .ok []) :
      Comes update args (.error (nothingToUpdate update.hint))
  | asks {given : Members} {plan : Plan}
      (targeted : ∀ target ∈ update.targets, Gives (args.text target))
      (read : changes args update.fields = .ok given) (something : given ≠ [])
      (sent : plan.call.body = some (.object given)) : Comes update args (.ok plan)

/-- With every target and every field read, it depends on whether there is something to change. -/
theorem comes_of_read {given : Members} {plan : Plan}
    (targeted : ∀ target ∈ update.targets, Gives (args.text target))
    (read : changes args update.fields = .ok given)
    (sent : plan.call.body = some (.object given)) :
    update.Comes args
      (if given.isEmpty then .error (nothingToUpdate update.hint) else .ok plan) := by
  split
  · rename_i empty
    rw [List.isEmpty_iff.mp empty] at read
    exact .idle targeted read
  · rename_i filled
    exact .asks targeted read (mt List.isEmpty_iff.mpr filled) sent

variable {result : Except Fault Plan}

/-- A request is planned exactly if everything is named and read and something is to be changed. -/
theorem Comes.gives_iff (comes : update.Comes args result)
    (distinct : (update.fields.map Field.name).Nodup) :
    Gives result ↔ (∀ target ∈ update.targets, Gives (args.text target)) ∧
      (∀ field ∈ update.fields, Gives (field.read args)) ∧
      ∃ field ∈ update.fields, field.read args ≠ .ok none := by
  cases comes with
  | @untargeted target _ named failed =>
      refine iff_of_false not_gives_error ?_
      rintro ⟨targeted, -⟩
      simpa [failed] using targeted target named
  | @unread field _ named failed =>
      refine iff_of_false not_gives_error ?_
      rintro ⟨-, read, -⟩
      simpa [failed] using read field named
  | idle _ nothing =>
      refine iff_of_false not_gives_error ?_
      rintro ⟨-, -, field, named, said⟩
      exact said (changes_eq_nil_iff.mp nothing field named)
  | @asks given _ targeted read something _ =>
      refine iff_of_true gives_ok ⟨targeted, ?_, ?_⟩
      · exact fun field named => ⟨_, lookup_changes distinct read field named⟩
      · by_contra silent
        push Not at silent
        rw [changes_eq_nil_iff.mpr silent] at read
        exact something (Except.ok.inj read).symm

/-- What is planned sends all that is given. -/
theorem Comes.sends {plan : Plan} (comes : update.Comes args (.ok plan)) :
    ∃ given, changes args update.fields = .ok given ∧ given ≠ [] ∧
      plan.call.body = some (.object given) := by
  cases comes with
  | asks _ read something sent => exact ⟨_, read, something, sent⟩

/-- With everything named and nothing given, there is nothing to update. -/
theorem Comes.eq_nothingToUpdate (comes : update.Comes args result)
    (targeted : ∀ target ∈ update.targets, Gives (args.text target))
    (unsaid : ∀ field ∈ update.fields, field.read args = .ok none) :
    result = .error (nothingToUpdate update.hint) := by
  cases comes with
  | @untargeted target _ named failed => simpa [failed] using targeted target named
  | @unread field _ named failed =>
      cases failed.symm.trans (unsaid field named)
  | idle => rfl
  | asks _ read something _ =>
      rw [changes_eq_nil_iff.mpr unsaid] at read
      exact absurd (Except.ok.inj read).symm something

end Update

/-- What comes of the update of a page. -/
theorem Wiki.comes_updatePage (args : Arguments) :
    Wiki.pageUpdate.Comes args (Wiki.updatePage.plan args) := by
  simp only [Wiki.updatePage, Wiki.referrers]
  cases wiki : args.text "wiki_id" with
  | error fault => exact .untargeted (by simp [pageUpdate] : "wiki_id" ∈ pageUpdate.targets) wiki
  | ok wikiId =>
  cases page : args.text "page_id" with
  | error fault => exact .untargeted (by simp [pageUpdate] : "page_id" ∈ pageUpdate.targets) page
  | ok pageId =>
  cases subject : args.text? "subject" with
  | error fault => exact .unread List.mem_cons_self (by simp [subject, Except.map])
  | ok title =>
  cases body : args.text? "body" with
  | error fault =>
      exact .unread (List.mem_cons_of_mem _ List.mem_cons_self) (by simp [body, Except.map])
  | ok content =>
  cases referrers : args.list? "referrer_member_ids" with
  | error fault =>
      exact .unread (List.mem_cons_of_mem _ (List.mem_cons_of_mem _ List.mem_cons_self))
        (by simp [referrers, Except.map])
  | ok notified =>
  have targeted : ∀ target ∈ pageUpdate.targets, Gives (args.text target) := by
    simp [pageUpdate, wiki, page]
  have read : changes args pageUpdate.fields = .ok
      (Members.optional "subject" (title.map .string)
        ++ Members.optional "body" (content.map (formatted markdown))
        ++ Members.optional "referrers" (notified.map memberEntries)) := by
    simp [changes, pageUpdate, subject, body, referrers, Except.map, Except.bind]
  exact Update.comes_of_read targeted read rfl

/-- What comes of the update of a shared link. -/
theorem Drive.comes_updateSharedLink (args : Arguments) :
    Drive.linkUpdate.Comes args (Drive.updateSharedLink.plan args) := by
  simp only [Drive.updateSharedLink]
  cases drive : args.text "drive_id" with
  | error fault => exact .untargeted (by simp [linkUpdate] : "drive_id" ∈ linkUpdate.targets) drive
  | ok driveId =>
  cases file : args.text "file_id" with
  | error fault => exact .untargeted (by simp [linkUpdate] : "file_id" ∈ linkUpdate.targets) file
  | ok fileId =>
  cases link : args.text "link_id" with
  | error fault => exact .untargeted (by simp [linkUpdate] : "link_id" ∈ linkUpdate.targets) link
  | ok linkId =>
  cases expiredAt : args.text? "expired_at" with
  | error fault => exact .unread List.mem_cons_self (by simp [expiredAt, Except.map])
  | ok expiry =>
  cases scope : args.oneOf? "scope" Drive.linkScopes with
  | error fault =>
      exact .unread (List.mem_cons_of_mem _ List.mem_cons_self) (by simp [scope, Except.map])
  | ok audience =>
  have targeted : ∀ target ∈ linkUpdate.targets, Gives (args.text target) := by
    simp [linkUpdate, drive, file, link]
  have read : changes args linkUpdate.fields = .ok
      (Members.optional "expiredAt" (expiry.map .string)
        ++ Members.optional "scope" (audience.map .string)) := by
    simp [changes, linkUpdate, expiredAt, scope, Except.map, Except.bind]
  exact Update.comes_of_read targeted read rfl

section Updates

variable {update : Update} (listed : update ∈ updates) (args : Arguments)

include listed

theorem nodup_fields : (update.fields.map Field.name).Nodup := by
  revert update
  decide

theorem comes_plan : update.Comes args (update.tool.plan args) := by
  simp only [updates, List.mem_cons, List.not_mem_nil, or_false] at listed
  rcases listed with rfl | rfl
  · exact Wiki.comes_updatePage args
  · exact Drive.comes_updateSharedLink args

end Updates

/-- A page that gets another title and is to be announced to two members. -/
def retitledPage : Arguments :=
  ⟨[("referrer_member_ids", .array [.string " 3 ", .nat 4]), ("wiki_id", .string "1"),
    ("page_id", .nat 2), ("body", .string "\t"), ("subject", .string " s "), ("priority", .nat 1)]⟩

end SuiteBridge.Suite
