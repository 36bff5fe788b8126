import SuiteBridge.Suite.Basic

/-!
# Drive tools
-/

namespace SuiteBridge.Suite.Drive

open Remote (listParameter parameter)

/-- What can be listed in a folder. -/
def fileTypes : List String := ["folder", "file"]

/-- Who can open a shared link. -/
def linkScopes : List String := ["member", "memberAndGuest", "memberAndGuestAndExternal"]

/-- Who can open a shared link when nothing is said about it. -/
def usualScope : String := "memberAndGuest"

/-- The folder of what is thrown away. -/
def trash : String := "trash"

/-- The parameter of a drive. -/
def driveParameter : Parameter :=
  (Parameter.text "drive_id" "Drive ID").mandatory

/-- The parameters of a file. -/
def fileParameters : List Parameter := [
  driveParameter,
  (Parameter.text "file_id" "File or folder ID").mandatory]

/-- The parameters of a shared link. -/
def linkParameters : List Parameter := [
  driveParameter,
  (Parameter.text "file_id" "File ID").mandatory,
  (Parameter.text "link_id" "Shared link ID").mandatory]

/-- The path of what belongs to a drive. -/
def drivePath (driveId : String) (below : List String) : List String :=
  ["drive", "v1", "drives", driveId] ++ below

/-- The path of what belongs to a file. -/
def filePath (driveId fileId : String) (below : List String) : List String :=
  drivePath driveId (["files", fileId] ++ below)

/-- The path of the shared links of a file. -/
def linksPath (driveId fileId : String) (below : List String) : List String :=
  filePath driveId fileId ("shared-links" :: below)

/-- Lists the drives of the caller. -/
def listDrives : Tool where
  category := .drive
  name := "dooray_drive_list"
  description := "List the drives the caller can access (personal and project drives)."
  parameters := [
    .choice "type" "Drive type" ["private", "project"],
    .text "project_id" "Only the drive of this project"]
  plan args := do
    let kind ← args.oneOf? "type" ["private", "project"]
    let projectId ← args.text? "project_id"
    return {
      call := reading ["drive", "v1", "drives"]
        (parameter "type" kind ++ parameter "projectId" projectId)
      reading := .page (listing "drives" "drives") }

/-- Gets a drive. -/
def driveDetail : Tool where
  category := .drive
  name := "dooray_drive_get_detail"
  description := "Get one drive."
  parameters := [driveParameter]
  plan args := do
    let driveId ← args.text "drive_id"
    return {
      call := reading (drivePath driveId []) []
      reading := .value fun drive => ⟨drive, "drive retrieved"⟩ }

/-- Lists what is in a folder. -/
def listFiles : Tool where
  category := .drive
  name := "dooray_drive_list_files"
  description := "List the files and folders inside a drive folder."
  parameters := [
    driveParameter,
    .text "parent_id" "Folder ID; the drive root when omitted",
    .choice "type" "Only folders or only files" fileTypes,
    .texts "sub_types" "File sub types (e.g. root, trash, users)",
    .page,
    .size 20]
  plan args := do
    let driveId ← args.text "drive_id"
    let subTypes ← args.list? "sub_types"
    let parent ← args.text? "parent_id"
    let kind ← args.oneOf? "type" fileTypes
    let page ← args.number? "page"
    let size ← args.number? "size"
    return {
      call := reading (drivePath driveId ["files"])
        (parameter "parentId" parent ++ parameter "type" kind ++ listParameter "subTypes" subTypes
          ++ numberParameter "page" page ++ numberParameter "size" size)
      reading := .page (listing "files" "files") }

/-- How many changes are of a kind. -/
def changeCount (kind : String) (changes : List Json) : Nat :=
  changes.countP fun change => (change.member? "changeType").bind Json.text? == some kind

/-- Lists what has changed in a drive. -/
def driveChanges : Tool where
  category := .drive
  name := "dooray_drive_get_changes"
  description := "List recent changes (updates and deletions) of files in a drive."
  parameters := [
    driveParameter,
    .text "latest_revision" "Only changes after this revision (default 0)",
    .text "file_id" "With latest_revision, only changes after this file",
    .size 20]
  plan args := do
    let driveId ← args.text "drive_id"
    let revision ← args.text? "latest_revision"
    let fileId ← args.text? "file_id"
    let size ← args.number? "size"
    return {
      call := reading (drivePath driveId ["changes"])
        (parameter "latestRevision" revision ++ parameter "fileId" fileId
          ++ numberParameter "size" size)
      reading := .items fun changes =>
        ⟨.array changes, "found " ++ numeral changes.length ++ " changes ("
          ++ numeral (changeCount "updated" changes) ++ " updated, "
          ++ numeral (changeCount "deleted" changes) ++ " deleted)"⟩ }

/-- Gets what is known of a file. -/
def fileMetadata : Tool where
  category := .drive
  name := "dooray_drive_get_file_metadata"
  description := "Get the metadata of a file or folder."
  parameters := fileParameters
  plan args := do
    let driveId ← args.text "drive_id"
    let fileId ← args.text "file_id"
    return {
      call := reading (filePath driveId fileId []) [("media", "meta")]
      reading := .value fun metadata => ⟨metadata, "file metadata retrieved"⟩ }

/-- Creates a folder. -/
def createFolder : Tool where
  category := .drive
  name := "dooray_drive_create_folder"
  description := "Create a folder inside a parent folder."
  parameters := [
    driveParameter,
    (Parameter.text "parent_folder_id" "Parent folder ID").mandatory,
    (Parameter.text "name" "Folder name").mandatory]
  plan args := do
    let driveId ← args.text "drive_id"
    let parent ← args.text "parent_folder_id"
    let name ← args.text "name"
    return {
      call := sending .post (filePath driveId parent ["create-folder"])
        (.object [("name", .string name)])
      reading := .value fun created => ⟨created, "folder '" ++ name ++ "' created"⟩ }

/-- Renames a file. -/
def renameFile : Tool where
  category := .drive
  name := "dooray_drive_rename_file"
  description := "Rename a file or folder."
  parameters := fileParameters ++ [(Parameter.text "name" "New name").mandatory]
  plan args := do
    let driveId ← args.text "drive_id"
    let fileId ← args.text "file_id"
    let name ← args.text "name"
    return {
      call := { sending .put (filePath driveId fileId []) (.object [("name", .string name)])
        with parameters := [("media", "meta")] }
      reading := .acknowledged fun _ =>
        ⟨.object [("driveId", .string driveId), ("fileId", .string fileId),
          ("name", .string name)], "renamed to '" ++ name ++ "'"⟩ }

/-- Copies a file. -/
def copyFile : Tool where
  category := .drive
  name := "dooray_drive_copy_file"
  description := "Copy a file into a folder, possibly in another drive."
  parameters := fileParameters ++ [
    (Parameter.text "destination_drive_id" "Target drive ID").mandatory,
    (Parameter.text "destination_folder_id" "Target folder ID").mandatory]
  plan args := do
    let driveId ← args.text "drive_id"
    let fileId ← args.text "file_id"
    let targetDrive ← args.text "destination_drive_id"
    let targetFolder ← args.text "destination_folder_id"
    return {
      call := sending .post (filePath driveId fileId ["copy"])
        (.object [("destinationDriveId", .string targetDrive),
          ("destinationFileId", .string targetFolder)])
      reading := .value fun copied => ⟨copied, "file copied"⟩ }

/-- The call that moves a file. -/
def moving (driveId fileId destination : String) : Remote.Call :=
  sending .post (filePath driveId fileId ["move"])
    (.object [("destinationFileId", .string destination)])

/-- Moves a file to another folder. -/
def moveFile : Tool where
  category := .drive
  name := "dooray_drive_move_file"
  description := "Move a file into another folder of the same drive."
  parameters := fileParameters ++ [
    (Parameter.text "destination_folder_id" "Target folder ID").mandatory]
  plan args := do
    let driveId ← args.text "drive_id"
    let fileId ← args.text "file_id"
    let destination ← args.text "destination_folder_id"
    return {
      call := moving driveId fileId destination
      reading := .acknowledged fun moved =>
        ⟨.object [("driveId", .string driveId), ("fileId", .string fileId),
          ("destinationFolderId", .string destination), ("result", .orNull moved)],
          "file moved"⟩ }

/-- Throws a file away. -/
def moveToTrash : Tool where
  category := .drive
  name := "dooray_drive_move_to_trash"
  description := "Move a file or folder to the drive's trash."
  parameters := fileParameters
  plan args := do
    let driveId ← args.text "drive_id"
    let fileId ← args.text "file_id"
    return {
      call := moving driveId fileId trash
      reading := .acknowledged fun _ =>
        ⟨.object [("driveId", .string driveId), ("fileId", .string fileId)],
          "file moved to trash"⟩ }

/-- Deletes a file. -/
def deleteFile : Tool where
  category := .drive
  name := "dooray_drive_delete_file"
  description := "Permanently delete a file. Only files already in the trash can be deleted."
  parameters := fileParameters
  plan args := do
    let driveId ← args.text "drive_id"
    let fileId ← args.text "file_id"
    return {
      call := call .delete (filePath driveId fileId [])
      reading := .acknowledged fun _ =>
        ⟨.object [("driveId", .string driveId), ("fileId", .string fileId)], "file deleted"⟩ }

/-- Creates a shared link. -/
def createSharedLink : Tool where
  category := .drive
  name := "dooray_drive_create_shared_link"
  description := "Create a shared link to a file."
  parameters := fileParameters ++ [
    (Parameter.text "expired_at" "Expiry, ISO 8601 (e.g. 2025-12-31T23:59:59+09:00)").mandatory,
    .choice "scope" "Who can open the link (default memberAndGuest)" linkScopes]
  plan args := do
    let driveId ← args.text "drive_id"
    let fileId ← args.text "file_id"
    let expiredAt ← args.text "expired_at"
    let scope := (← args.oneOf? "scope" linkScopes).getD usualScope
    return {
      call := sending .post (linksPath driveId fileId [])
        (.object [("scope", .string scope), ("expiredAt", .string expiredAt)])
      reading := .value fun created =>
        ⟨created, "shared link created (" ++ scope ++ ", expires " ++ expiredAt ++ ")"⟩ }

/-- Lists the shared links of a file. -/
def sharedLinks : Tool where
  category := .drive
  name := "dooray_drive_get_shared_links"
  description := "List the shared links of a file."
  parameters := fileParameters ++ [
    .flag "valid" "true for unexpired links only, false for expired links only"]
  plan args := do
    let driveId ← args.text "drive_id"
    let fileId ← args.text "file_id"
    let valid ← args.flag? "valid"
    return {
      call := reading (linksPath driveId fileId [])
        (parameter "valid" (valid.map fun b => if b then "true" else "false"))
      reading := .page (listing "sharedLinks" "shared links") }

/-- Gets a shared link. -/
def sharedLinkDetail : Tool where
  category := .drive
  name := "dooray_drive_get_shared_link_detail"
  description := "Get one shared link of a file."
  parameters := linkParameters
  plan args := do
    let driveId ← args.text "drive_id"
    let fileId ← args.text "file_id"
    let linkId ← args.text "link_id"
    return {
      call := reading (linksPath driveId fileId [linkId]) []
      reading := .value fun link => ⟨link, "shared link retrieved"⟩ }

/-- Changes what is given of a shared link. -/
def updateSharedLink : Tool where
  category := .drive
  name := "dooray_drive_update_shared_link"
  description := "Change the expiry or scope of a shared link."
  parameters := linkParameters ++ [
    .text "expired_at" "New expiry, ISO 8601",
    .choice "scope" "New scope" linkScopes]
  plan args := do
    let driveId ← args.text "drive_id"
    let fileId ← args.text "file_id"
    let linkId ← args.text "link_id"
    let expiredAt ← args.text? "expired_at"
    let scope ← args.oneOf? "scope" linkScopes
    let changes := Members.optional "expiredAt" (expiredAt.map .string)
      ++ Members.optional "scope" (scope.map .string)
    if changes.isEmpty then
      throw (nothingToUpdate "give expired_at and/or scope")
    return {
      call := sending .put (linksPath driveId fileId [linkId]) (.object changes)
      reading := .acknowledged fun _ =>
        ⟨.object [("driveId", .string driveId), ("fileId", .string fileId),
          ("linkId", .string linkId), ("changes", .object changes)], "shared link updated"⟩ }

/-- Deletes a shared link. -/
def deleteSharedLink : Tool where
  category := .drive
  name := "dooray_drive_delete_shared_link"
  description := "Delete a shared link."
  parameters := linkParameters
  plan args := do
    let driveId ← args.text "drive_id"
    let fileId ← args.text "file_id"
    let linkId ← args.text "link_id"
    return {
      call := call .delete (linksPath driveId fileId [linkId])
      reading := .acknowledged fun _ =>
        ⟨.object [("driveId", .string driveId), ("fileId", .string fileId),
          ("linkId", .string linkId)], "shared link deleted"⟩ }

/-- All drive tools. -/
def tools : List Tool :=
  [listDrives, driveDetail, listFiles, driveChanges, fileMetadata, createFolder, renameFile,
    copyFile, moveFile, moveToTrash, deleteFile, createSharedLink, sharedLinks, sharedLinkDetail,
    updateSharedLink, deleteSharedLink]

end SuiteBridge.Suite.Drive
