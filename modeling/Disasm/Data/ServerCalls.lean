/-!
# System calls of the server program

Each line that names a call holds the word `equ`, the name and the negative number of the call.
-/

namespace Disasm.Data.ServerCalls

def part1 : List String := [
  "code\n",
  "\n",
  "equ\ttrap_Printf\t\t\t\t-1\n",
  "equ\ttrap_Error\t\t\t\t-2\n",
  "equ\ttrap_Milliseconds\t\t-3\n",
  "equ\ttrap_Cvar_Register\t\t-4\n",
  "equ\ttrap_Cvar_Update\t\t-5\n",
  "equ\ttrap_Cvar_Set\t\t\t-6\n",
  "equ\ttrap_Cvar_VariableIntegerValue\t-7\n",
  "equ\ttrap_Cvar_VariableStringBuffer\t-8\n",
  "equ\ttrap_Argc\t\t\t\t-9\n",
  "equ\ttrap_Argv\t\t\t\t-10\n",
  "equ\ttrap_FS_FOpenFile\t\t-11\n",
  "equ\ttrap_FS_Read\t\t\t-12\n",
  "equ\ttrap_FS_Write\t\t\t-13\n",
  "equ\ttrap_FS_FCloseFile\t\t-14\n",
  "equ\ttrap_SendConsoleCommand\t-15\n",
  "equ\ttrap_LocateGameData\t\t-16\n",
  "equ\ttrap_DropClient\t\t\t-17\n",
  "equ\ttrap_SendServerCommand\t-18\n",
  "equ\ttrap_SetConfigstring\t-19\n",
  "equ\ttrap_GetConfigstring\t-20\n",
  "equ\ttrap_GetUserinfo\t\t-21\n",
  "equ\ttrap_SetUserinfo\t\t-22\n",
  "equ\ttrap_GetServerinfo\t\t-23\n",
  "equ\ttrap_SetBrushModel\t\t-24\n",
  "equ\ttrap_Trace\t\t\t\t-25\n",
  "equ\ttrap_PointContents\t\t-26\n",
  "equ trap_InPVS\t\t\t\t-27\n",
  "equ\ttrap_InPVSIgnorePortals\t-28\n",
  "equ\ttrap_AdjustAreaPortalState\t-29\n",
  "equ\ttrap_AreasConnected\t\t-30\n",
  "equ\ttrap_LinkEntity\t\t\t-31\n",
  "equ\ttrap_UnlinkEntity\t\t-32\n",
  "equ\ttrap_EntitiesInBox\t\t-33\n",
  "equ\ttrap_EntityContact\t\t-34\n",
  "equ\ttrap_BotAllocateClient\t-35\n",
  "equ\ttrap_BotFreeClient\t\t-36\n",
  "equ\ttrap_GetUsercmd\t\t\t-37\n",
  "equ\ttrap_GetEntityToken\t\t-38\n",
  "equ\ttrap_FS_GetFileList\t\t-39\n",
  "equ trap_DebugPolygonCreate\t-40\n",
  "equ trap_DebugPolygonDelete\t-41\n",
  "equ trap_RealTime\t\t\t-42\n",
  "equ trap_SnapVector\t\t\t-43\n",
  "equ trap_TraceCapsule\t\t-44\n",
  "equ trap_EntityContactCapsule\t-45\n",
  "equ trap_FS_Seek -46\n",
  "\n",
  "equ\tmemset\t\t\t\t\t-101\n",
  "equ\tmemcpy\t\t\t\t\t-102\n",
  "equ\tstrncpy\t\t\t\t\t-103\n",
  "equ\tsin\t\t\t\t\t\t-104\n",
  "equ\tcos\t\t\t\t\t\t-105\n",
  "equ\tatan2\t\t\t\t\t-106\n",
  "equ\tsqrt\t\t\t\t\t-107\n",
  "equ floor\t\t\t\t\t-111\n",
  "equ\tceil\t\t\t\t\t-112\n",
  "equ\ttestPrintInt\t\t\t-113\n",
  "equ\ttestPrintFloat\t\t\t-114\n",
  "\n",
  "\n",
  "\n",
  "equ trap_BotLibSetup\t\t\t\t\t-201\n",
  "equ trap_BotLibShutdown\t\t\t\t\t-202\n",
  "equ trap_BotLibVarSet\t\t\t\t\t-203\n",
  "equ trap_BotLibVarGet\t\t\t\t\t-204\n",
  "equ trap_BotLibDefine\t\t\t\t\t-205\n",
  "equ trap_BotLibStartFrame\t\t\t\t-206\n",
  "equ trap_BotLibLoadMap\t\t\t\t\t-207\n",
  "equ trap_BotLibUpdateEntity\t\t\t\t-208\n",
  "equ trap_BotLibTest\t\t\t\t\t\t-209\n",
  "\n",
  "equ trap_BotGetSnapshotEntity\t\t\t-210\n",
  "equ trap_BotGetServerCommand\t\t-211\n",
  "equ trap_BotUserCommand\t\t\t\t\t-212\n",
  "\n",
  "\n",
  "\n",
  "equ trap_AAS_EnableRoutingArea\t\t-301\n",
  "equ trap_AAS_BBoxAreas\t\t\t\t-302\n",
  "equ trap_AAS_AreaInfo\t\t\t\t-303\n",
  "equ trap_AAS_EntityInfo\t\t\t\t\t-304\n",
  "\n",
  "equ trap_AAS_Initialized\t\t\t\t-305\n",
  "equ trap_AAS_PresenceTypeBoundingBox\t-306\n",
  "equ trap_AAS_Time\t\t\t\t\t\t-307\n",
  "\n",
  "equ trap_AAS_PointAreaNum\t\t\t\t-308\n",
  "equ trap_AAS_TraceAreas\t\t\t\t\t-309\n",
  "\n",
  "equ trap_AAS_PointContents\t\t\t\t-310\n",
  "equ trap_AAS_NextBSPEntity\t\t\t\t-311\n",
  "equ trap_AAS_ValueForBSPEpairKey\t\t-312\n",
  "equ trap_AAS_VectorForBSPEpairKey\t\t-313\n",
  "equ trap_AAS_FloatForBSPEpairKey\t\t-314\n",
  "equ trap_AAS_IntForBSPEpairKey\t\t\t-315\n",
  "\n",
  "equ trap_AAS_AreaReachability\t\t\t-316\n",
  "\n",
  "equ trap_AAS_AreaTravelTimeToGoalArea\t-317\n",
  "\n",
  "equ trap_AAS_Swimming\t\t\t\t\t-318\n",
  "equ trap_AAS_PredictClientMovement\t\t-319\n",
  "\n",
  "\n",
  "\n",
  "equ trap_EA_Say\t\t\t\t\t\t\t-401\n",
  "equ trap_EA_SayTeam\t\t\t\t\t\t-402\n",
  "equ trap_EA_Command\t\t\t\t\t\t-403\n",
  "\n",
  "equ trap_EA_Action\t\t\t\t\t\t-404\n",
  "equ trap_EA_Gesture\t\t\t\t\t\t-405\n",
  "equ trap_EA_Talk\t\t\t\t\t\t-406\n",
  "equ trap_EA_Attack\t\t\t\t\t\t-407\n",
  "equ trap_EA_Use\t\t\t\t\t\t\t-408\n",
  "equ trap_EA_Respawn\t\t\t\t\t\t-409\n",
  "equ trap_EA_Crouch\t\t\t\t\t\t-410\n",
  "equ trap_EA_MoveUp\t\t\t\t\t\t-411\n",
  "equ trap_EA_MoveDown\t\t\t\t\t-412\n"]

def part2 : List String := [
  "equ trap_EA_MoveForward\t\t\t\t\t-413\n",
  "equ trap_EA_MoveBack\t\t\t\t\t-414\n",
  "equ trap_EA_MoveLeft\t\t\t\t\t-415\n",
  "equ trap_EA_MoveRight\t\t\t\t\t-416\n",
  "\n",
  "equ trap_EA_SelectWeapon\t\t\t\t-417\n",
  "equ trap_EA_Jump\t\t\t\t\t\t-418\n",
  "equ trap_EA_DelayedJump\t\t\t\t\t-419\n",
  "equ trap_EA_Move\t\t\t\t\t\t-420\n",
  "equ trap_EA_View\t\t\t\t\t\t-421\n",
  "\n",
  "equ trap_EA_EndRegular\t\t\t\t\t-422\n",
  "equ trap_EA_GetInput\t\t\t\t\t-423\n",
  "equ trap_EA_ResetInput\t\t\t\t\t-424\n",
  "\n",
  "\n",
  "\n",
  "equ trap_BotLoadCharacter\t\t\t\t-501\n",
  "equ trap_BotFreeCharacter\t\t\t\t-502\n",
  "equ trap_Characteristic_Float\t\t\t-503\n",
  "equ trap_Characteristic_BFloat\t\t\t-504\n",
  "equ trap_Characteristic_Integer\t\t\t-505\n",
  "equ trap_Characteristic_BInteger\t\t-506\n",
  "equ trap_Characteristic_String\t\t\t-507\n",
  "\n",
  "equ trap_BotAllocChatState\t\t\t\t-508\n",
  "equ trap_BotFreeChatState\t\t\t\t-509\n",
  "equ trap_BotQueueConsoleMessage\t\t\t-510\n",
  "equ trap_BotRemoveConsoleMessage\t\t-511\n",
  "equ trap_BotNextConsoleMessage\t\t\t-512\n",
  "equ trap_BotNumConsoleMessages\t\t\t-513\n",
  "equ trap_BotInitialChat\t\t\t\t\t-514\n",
  "equ trap_BotReplyChat\t\t\t\t\t-515\n",
  "equ trap_BotChatLength\t\t\t\t\t-516\n",
  "equ trap_BotEnterChat\t\t\t\t\t-517\n",
  "equ trap_StringContains\t\t\t\t\t-518\n",
  "equ trap_BotFindMatch\t\t\t\t\t-519\n",
  "equ trap_BotMatchVariable\t\t\t\t-520\n",
  "equ trap_UnifyWhiteSpaces\t\t\t\t-521\n",
  "equ trap_BotReplaceSynonyms\t\t\t\t-522\n",
  "equ trap_BotLoadChatFile\t\t\t\t-523\n",
  "equ trap_BotSetChatGender\t\t\t\t-524\n",
  "equ trap_BotSetChatName\t\t\t\t\t-525\n",
  "\n",
  "equ trap_BotResetGoalState\t\t\t\t-526\n",
  "equ trap_BotResetAvoidGoals\t\t\t\t-527\n",
  "equ trap_BotPushGoal\t\t\t\t\t-528\n",
  "equ trap_BotPopGoal\t\t\t\t\t\t-529\n",
  "equ trap_BotEmptyGoalStack\t\t\t\t-530\n",
  "equ trap_BotDumpAvoidGoals\t\t\t\t-531\n",
  "equ trap_BotDumpGoalStack\t\t\t\t-532\n",
  "equ trap_BotGoalName\t\t\t\t\t-533\n",
  "equ trap_BotGetTopGoal\t\t\t\t\t-534\n",
  "equ trap_BotGetSecondGoal\t\t\t\t-535\n",
  "equ trap_BotChooseLTGItem\t\t\t\t-536\n",
  "equ trap_BotChooseNBGItem\t\t\t\t-537\n",
  "equ trap_BotTouchingGoal\t\t\t\t-538\n",
  "equ trap_BotItemGoalInVisButNotVisible\t-539\n",
  "equ trap_BotGetLevelItemGoal\t\t\t-540\n",
  "equ trap_BotAvoidGoalTime\t\t\t\t-541\n",
  "equ trap_BotInitLevelItems\t\t\t\t-542\n",
  "equ trap_BotUpdateEntityItems\t\t\t-543\n",
  "equ trap_BotLoadItemWeights\t\t\t\t-544\n",
  "equ trap_BotFreeItemWeights\t\t\t\t-546\n",
  "equ trap_BotSaveGoalFuzzyLogic\t\t\t-546\n",
  "equ trap_BotAllocGoalState\t\t\t\t-547\n",
  "equ trap_BotFreeGoalState\t\t\t\t-548\n",
  "\n",
  "equ trap_BotResetMoveState\t\t\t\t-549\n",
  "equ trap_BotMoveToGoal\t\t\t\t\t-550\n",
  "equ trap_BotMoveInDirection\t\t\t\t-551\n",
  "equ trap_BotResetAvoidReach\t\t\t\t-552\n",
  "equ trap_BotResetLastAvoidReach\t\t\t-553\n",
  "equ trap_BotReachabilityArea\t\t\t-554\n",
  "equ trap_BotMovementViewTarget\t\t\t-555\n",
  "equ trap_BotAllocMoveState\t\t\t\t-556\n",
  "equ trap_BotFreeMoveState\t\t\t\t-557\n",
  "equ trap_BotInitMoveState\t\t\t\t-558\n",
  "\n",
  "equ trap_BotChooseBestFightWeapon\t\t-559\n",
  "equ trap_BotGetWeaponInfo\t\t\t\t-560\n",
  "equ trap_BotLoadWeaponWeights\t\t\t-561\n",
  "equ trap_BotAllocWeaponState\t\t\t-562\n",
  "equ trap_BotFreeWeaponState\t\t\t\t-563\n",
  "equ trap_BotResetWeaponState\t\t\t-564\n",
  "equ trap_GeneticParentsAndChildSelection -565\n",
  "equ trap_BotInterbreedGoalFuzzyLogic\t-566\n",
  "equ trap_BotMutateGoalFuzzyLogic\t\t-567\n",
  "equ trap_BotGetNextCampSpotGoal\t\t\t-568\n",
  "equ trap_BotGetMapLocationGoal\t\t\t-569\n",
  "equ trap_BotNumInitialChats\t\t\t\t-570\n",
  "equ trap_BotGetChatMessage\t\t\t\t-571\n",
  "equ trap_BotRemoveFromAvoidGoals\t\t-572\n",
  "equ trap_BotPredictVisiblePosition\t\t-573\n",
  "equ trap_BotSetAvoidGoalTime\t\t\t-574\n",
  "equ trap_BotAddAvoidSpot\t\t\t\t-575\n",
  "equ trap_AAS_AlternativeRouteGoals\t\t-576\n",
  "equ trap_AAS_PredictRoute\t\t\t\t-577\n",
  "equ trap_AAS_PointReachabilityAreaIndex\t-578\n",
  "\n",
  "equ trap_BotLibLoadSource\t\t\t\t-579\n",
  "equ trap_BotLibFreeSource\t\t\t\t-580\n",
  "equ trap_BotLibReadToken\t\t\t\t-581\n",
  "equ trap_BotLibSourceFileAndLine\t\t-582\n",
  " \n"]

def text : String :=
  String.join (List.flatten [
    part1, part2])

end Disasm.Data.ServerCalls
