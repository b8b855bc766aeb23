/-!
# System calls of the client program

Each line that names a call holds the word `equ`, the name and the negative number of the call.
-/

namespace Disasm.Data.ClientCalls

def part1 : List String := [
  "code\n",
  "\n",
  "equ\ttrap_Print\t\t\t\t\t\t\t-1\n",
  "equ\ttrap_Error\t\t\t\t\t\t\t-2\n",
  "equ\ttrap_Milliseconds\t\t\t\t\t-3\n",
  "equ\ttrap_Cvar_Register\t\t\t\t\t-4\n",
  "equ\ttrap_Cvar_Update\t\t\t\t\t-5\n",
  "equ\ttrap_Cvar_Set\t\t\t\t\t\t-6\n",
  "equ trap_Cvar_VariableStringBuffer\t\t-7\n",
  "equ\ttrap_Argc\t\t\t\t\t\t\t-8\n",
  "equ\ttrap_Argv\t\t\t\t\t\t\t-9\n",
  "equ\ttrap_Args\t\t\t\t\t\t\t-10\n",
  "equ\ttrap_FS_FOpenFile\t\t\t\t\t-11\n",
  "equ\ttrap_FS_Read\t\t\t\t\t\t-12\n",
  "equ\ttrap_FS_Write\t\t\t\t\t\t-13 \n",
  "equ\ttrap_FS_FCloseFile\t\t\t\t\t-14\n",
  "equ\ttrap_SendConsoleCommand\t\t\t\t-15\n",
  "equ\ttrap_AddCommand\t\t\t\t\t\t-16\n",
  "equ\ttrap_SendClientCommand\t\t\t\t-17\n",
  "equ\ttrap_UpdateScreen\t\t\t\t\t-18\n",
  "equ\ttrap_CM_LoadMap\t\t\t\t\t\t-19\n",
  "equ\ttrap_CM_NumInlineModels\t\t\t\t-20\n",
  "equ\ttrap_CM_InlineModel\t\t\t\t\t-21\n",
  "equ\ttrap_CM_LoadModel\t\t\t\t\t-22\n",
  "equ\ttrap_CM_TempBoxModel\t\t\t\t-23\n",
  "equ\ttrap_CM_PointContents\t\t\t\t-24\n",
  "equ\ttrap_CM_TransformedPointContents\t-25\n",
  "equ\ttrap_CM_BoxTrace\t\t\t\t\t-26\n",
  "equ\ttrap_CM_TransformedBoxTrace\t\t\t-27\n",
  "equ\ttrap_CM_MarkFragments\t\t\t\t-28\n",
  "equ\ttrap_S_StartSound\t\t\t\t\t-29\n",
  "equ\ttrap_S_StartLocalSound\t\t\t\t-30\n",
  "equ\ttrap_S_ClearLoopingSounds\t\t\t-31\n",
  "equ\ttrap_S_AddLoopingSound\t\t\t\t-32\n",
  "equ\ttrap_S_UpdateEntityPosition\t\t\t-33\n",
  "equ\ttrap_S_Respatialize\t\t\t\t\t-34\n",
  "equ\ttrap_S_RegisterSound\t\t\t\t-35\n",
  "equ\ttrap_S_StartBackgroundTrack\t\t\t-36\n",
  "equ\ttrap_R_LoadWorldMap\t\t\t\t\t-37\n",
  "equ\ttrap_R_RegisterModel\t\t\t\t-38\n",
  "equ\ttrap_R_RegisterSkin\t\t\t\t\t-39\n",
  "equ\ttrap_R_RegisterShader\t\t\t\t-40\n",
  "equ\ttrap_R_ClearScene\t\t\t\t\t-41\n",
  "equ\ttrap_R_AddRefEntityToScene\t\t\t-42\n",
  "equ\ttrap_R_AddPolyToScene\t\t\t\t-43\n",
  "equ\ttrap_R_AddLightToScene\t\t\t\t-44\n",
  "equ\ttrap_R_RenderScene\t\t\t\t\t-45\n",
  "equ\ttrap_R_SetColor\t\t\t\t\t\t-46\n",
  "equ\ttrap_R_DrawStretchPic\t\t\t\t-47\n",
  "equ\ttrap_R_ModelBounds\t\t\t\t\t-48\n",
  "equ\ttrap_R_LerpTag\t\t\t\t\t\t-49\n",
  "equ\ttrap_GetGlconfig\t\t\t\t\t-50\n",
  "equ\ttrap_GetGameState\t\t\t\t\t-51\n",
  "equ\ttrap_GetCurrentSnapshotNumber\t\t-52\n",
  "equ\ttrap_GetSnapshot\t\t\t\t\t-53\n",
  "equ\ttrap_GetServerCommand\t\t\t\t-54\n",
  "equ\ttrap_GetCurrentCmdNumber\t\t\t-55\n",
  "equ\ttrap_GetUserCmd\t\t\t\t\t\t-56\n",
  "equ\ttrap_SetUserCmdValue\t\t\t\t-57\n",
  "equ\ttrap_R_RegisterShaderNoMip\t\t\t-58\n",
  "equ\ttrap_MemoryRemaining\t\t\t\t-59\n",
  "equ trap_R_RegisterFont\t\t\t\t\t-60\n",
  "equ trap_Key_IsDown\t\t\t\t\t\t-61\n",
  "equ trap_Key_GetCatcher\t\t\t\t\t-62\n",
  "equ trap_Key_SetCatcher\t\t\t\t\t-63\n",
  "equ trap_Key_GetKey\t\t\t\t\t\t-64\n",
  "equ trap_PC_AddGlobalDefine\t\t\t\t-65\n",
  "equ\ttrap_PC_LoadSource\t\t\t\t\t-66\n",
  "equ trap_PC_FreeSource\t\t\t\t\t-67\n",
  "equ trap_PC_ReadToken\t\t\t\t\t-68\n",
  "equ trap_PC_SourceFileAndLine\t\t\t-69\n",
  "equ trap_S_StopBackgroundTrack\t\t\t-70\n",
  "equ trap_RealTime\t\t\t\t\t\t-71\n",
  "equ trap_SnapVector\t\t\t\t\t\t-72\n",
  "equ trap_RemoveCommand\t\t\t\t\t-73\n",
  "equ trap_R_LightForPoint\t\t\t\t-74\n",
  "equ trap_CIN_PlayCinematic\t\t\t\t-75\n",
  "equ trap_CIN_StopCinematic\t\t\t\t-76\n",
  "equ trap_CIN_RunCinematic \t\t\t\t-77\n",
  "equ trap_CIN_DrawCinematic\t\t\t\t-78\n",
  "equ trap_CIN_SetExtents\t\t\t\t\t-79\n",
  "equ trap_R_RemapShader\t\t\t\t\t-80\n",
  "equ\ttrap_S_AddRealLoopingSound\t\t\t-81\n",
  "equ trap_S_StopLoopingSound\t\t\t\t-82\n",
  "equ trap_CM_TempCapsuleModel\t\t\t-83\n",
  "equ trap_CM_CapsuleTrace\t\t\t\t-84\n",
  "equ trap_CM_TransformedCapsuleTrace\t\t-85\n",
  "equ trap_R_AddAdditiveLightToScene\t\t-86\n",
  "equ trap_GetEntityToken\t\t\t\t\t-87\n",
  "equ\ttrap_R_AddPolysToScene\t\t\t\t-88\n",
  "equ trap_R_inPVS\t\t\t\t\t\t-89\n",
  "equ trap_FS_Seek\t\t\t-90\n",
  "\n",
  "equ\tmemset\t\t\t\t\t\t-101\n",
  "equ\tmemcpy\t\t\t\t\t\t-102\n",
  "equ\tstrncpy\t\t\t\t\t\t-103\n",
  "equ\tsin\t\t\t\t\t\t\t-104\n",
  "equ\tcos\t\t\t\t\t\t\t-105\n",
  "equ\tatan2\t\t\t\t\t\t-106\n",
  "equ\tsqrt\t\t\t\t\t\t-107\n",
  "equ floor\t\t\t\t\t\t-108\n",
  "equ\tceil\t\t\t\t\t\t-109\n",
  "equ\ttestPrintInt\t\t\t\t-110\n",
  "equ\ttestPrintFloat\t\t\t\t-111\n",
  "equ acos\t\t\t\t\t\t-112\n",
  "\n"]

def text : String :=
  String.join (List.flatten [
    part1])

end Disasm.Data.ClientCalls
